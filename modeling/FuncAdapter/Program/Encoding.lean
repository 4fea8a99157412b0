import FuncAdapter.Program.Basic
import FuncAdapter.Syntax.Encoding

/-!
# Programs as documents

The document of a program nests one map per level: packages, their files, the objects of a file.
The scanner prints this document, and a snapshot stores it.

Reading visits the maps in order and stops at the first part that does not have the expected form.
-/

namespace FuncAdapter

/-- The document of a declared type. -/
def TypeSpec.toDocument (spec : TypeSpec) : Document :=
  .record
    [("name", .text spec.name), ("type", spec.type.toDocument),
      ("type_params", resultsDocument spec.typeParams)]

/-- The document of an object, which has a `decl` entry only if there is a declaration. -/
def Object.toDocument (object : Object) : Document :=
  match object.decl with
  | none => .record [("kind", .text object.kind.word)]
  | some spec => .record [("kind", .text object.kind.word), ("decl", spec.toDocument)]

/-- The document of a table, given the documents of its values. -/
def Table.toDocument {value : Type} (write : value → Document) (table : Table Label value) :
    Document :=
  .map (table.entries.map fun entry => (entry.1, write entry.2))

/-- The document of a file. -/
def File.toDocument (file : File) : Document :=
  .record [("objects", file.objects.toDocument Object.toDocument)]

/-- The document of a package. -/
def Package.toDocument (package : Package) : Document :=
  .record [("files", package.files.toDocument File.toDocument)]

/-- The document of a program. -/
def Program.toDocument (program : Program) : Document :=
  .record [("packages", program.packages.toDocument Package.toDocument)]

/-- The declared type that the entries of a map stand for. -/
def TypeSpec.ofEntries (entries : List (Label × Document)) : Except Malformed TypeSpec := do
  let name ← Document.requireText "name" entries
  let type ← exprAt "type" entries
  let typeParams ← resultsAt "type_params" entries
  return ⟨name, type, typeParams⟩

/-- The declaration of an object under its entry, which may be absent. -/
def declarationOf
    (name : Label) (entries : List (Label × Document)) : Except Malformed (Option TypeSpec) :=
  match Document.valueAt "decl" entries with
  | .null => .ok none
  | .map inner => (TypeSpec.ofEntries inner).map some
  | _ => .error (.declaration name)

/-- The kind of an object under its entry. -/
def kindOf (name : Label) (entries : List (Label × Document)) : Except Malformed Kind := do
  let word ← Document.requireText "kind" entries
  match Kind.ofWord? word with
  | some kind => return kind
  | none => throw (.kind word name)

/-- The object that a document stands for. -/
def Object.ofDocument (name : Label) : Document → Except Malformed Object
  | .map entries => do
      let kind ← kindOf name entries
      let decl ← declarationOf name entries
      return ⟨kind, decl⟩
  | other => .error (.noMap "kind" other.shape)

/-- Read every value of some entries, in order. -/
def readEntries {value : Type} (read : Label → Document → Except Malformed value) :
    List (Label × Document) → Except Malformed (List (Label × value))
  | [] => .ok []
  | (name, document) :: entries => do
      let first ← read name document
      let rest ← readEntries read entries
      return (name, first) :: rest

/-- The table under a label of a document, with every value read. -/
def tableOf {value : Type} (label : String)
    (read : Label → Document → Except Malformed value) (document : Document) :
    Except Malformed (Table Label value) := do
  let entries ← Document.requireMap label document
  let values ← readEntries read entries
  return Table.ofEntries values

/-- The file that a document stands for. -/
def File.ofDocument (document : Document) : Except Malformed File := do
  return ⟨← tableOf "objects" Object.ofDocument document⟩

/-- The package that a document stands for. -/
def Package.ofDocument (document : Document) : Except Malformed Package := do
  return ⟨← tableOf "files" (fun _ file => File.ofDocument file) document⟩

/-- The program that a document stands for. -/
def Program.ofDocument (document : Document) : Except Malformed Program := do
  return ⟨← tableOf "packages" (fun _ package => Package.ofDocument package) document⟩

end FuncAdapter
