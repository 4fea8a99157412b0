import FuncAdapter.Document.Basic
import FuncAdapter.Syntax.Decl

/-!
# Programs

A scanned program holds packages, a package holds files, and a file binds objects to names.  All
three are tables in the order in which they were scanned.

Names are labels: they are text in every program that was scanned, and may be bytes in one that was
read from a snapshot.
-/

namespace FuncAdapter

/-- What a name at the top of a file is bound to. -/
inductive Kind where
  | type
  | func
  | var
  | const
  deriving DecidableEq, Repr

namespace Kind

/-- The word for a kind. -/
def word : Kind → String
  | .type => "type"
  | .func => "func"
  | .var => "var"
  | .const => "const"

/-- The kind that a word stands for. -/
def ofWord? : String → Option Kind
  | "type" => some .type
  | "func" => some .func
  | "var" => some .var
  | "const" => some .const
  | _ => none

@[simp]
theorem ofWord?_word (kind : Kind) : ofWord? kind.word = some kind := by
  cases kind <;> rfl

end Kind

/-- A named object of a file; types come with their declaration. -/
structure Object where
  kind : Kind
  decl : Option TypeSpec

/-- A source file with the objects it binds. -/
structure File where
  objects : Table Label Object

/-- A package with its source files. -/
structure Package where
  files : Table Label File

/-- A program with its packages. -/
structure Program where
  packages : Table Label Package

/-- The program without packages. -/
def Program.empty : Program := ⟨.empty⟩

/-- How many files the packages of a program have together. -/
def Program.fileCount (program : Program) : Nat :=
  program.packages.values.foldl (fun count package => count + package.files.size) 0

end FuncAdapter
