import FuncAdapter.Text.Join

/-!
# Paths

A path is a starting point followed by parts.  Empty parts and parts that name the current directory
vanish when a path is read, while parts that name the parent directory stay.

A path may start with exactly two slashes, which is kept apart from one slash; three or more count
as one.
-/

namespace FuncAdapter

/-- Where a path starts. -/
inductive Anchor where
  | workingDirectory
  | root
  /-- The root, written with two slashes. -/
  | doubleRoot
  deriving DecidableEq, Repr

/-- A path in its shortest written form. -/
structure Path where
  anchor : Anchor
  parts : List String
  deriving DecidableEq, Repr

namespace Path

/-- The parts of a text between slashes; the part being read is given last character first. -/
def splitSlashes (part : List Char) : List Char → List String
  | [] => [String.ofList part.reverse]
  | '/' :: rest => String.ofList part.reverse :: splitSlashes [] rest
  | character :: rest => splitSlashes (character :: part) rest

/-- The starting point of the path with a given number of leading slashes. -/
def anchorOf : Nat → Anchor
  | 0 => .workingDirectory
  | 2 => .doubleRoot
  | _ => .root

/-- The path that a text stands for. -/
def ofString (text : String) : Path :=
  let characters := text.toList
  let slashes := (characters.takeWhile (· == '/')).length
  ⟨anchorOf slashes,
    (splitSlashes [] characters).filter fun part => part != "" && part != "."⟩

/-- The text of a starting point. -/
def anchorText : Anchor → String
  | .workingDirectory => ""
  | .root => "/"
  | .doubleRoot => "//"

/-- The text of a path; the working directory itself is a point. -/
def text (path : Path) : String :=
  if path.anchor = .workingDirectory ∧ path.parts = [] then
    "."
  else
    anchorText path.anchor ++ Text.join "/" path.parts

/-- Whether a path holds a null byte, which no name of a file does. -/
def holdsNull (path : Path) : Bool :=
  path.parts.any fun part => part.toList.contains '\x00'

/-- The path without its last part; a path without parts is its own parent. -/
def parent (path : Path) : Path :=
  ⟨path.anchor, path.parts.dropLast⟩

/-- The path with one more part. -/
def child (path : Path) (part : String) : Path :=
  ⟨path.anchor, path.parts ++ [part]⟩

end Path

end FuncAdapter
