import FuncAdapter.FileSystem.Path
import FuncAdapter.Table
import FuncAdapter.Text.Quoted

/-!
# File trees

A file tree records which directories and files exist.  Every entry has a location, the parts from
the root down to it.  A path is followed part by part from its starting point: each part is looked
up in a directory, and the parent part goes one level up.

Operations fail the way the operating system reports it: something on the way is missing or is not a
directory, a file was expected and a directory found, an entry is there already, or a part or the
whole path is longer than names and paths may be.  A path that holds a null byte does not even reach
the operating system.
-/

namespace FuncAdapter

/-- The parts from the root to an entry. -/
abbrev Location := List String

/-- What stands at a location. -/
inductive Entry where
  | directory
  | file (content : List UInt8)
  deriving DecidableEq, Repr

/-- Why an operation on an entry fails. -/
inductive Obstacle where
  | notFound
  | exists
  | notDirectory
  | isDirectory
  | nameTooLong
  deriving DecidableEq, Repr

/-- The number of an obstacle and the words for it. -/
def Obstacle.message : Obstacle → String
  | .notFound => "[Errno 2] No such file or directory"
  | .exists => "[Errno 17] File exists"
  | .notDirectory => "[Errno 20] Not a directory"
  | .isDirectory => "[Errno 21] Is a directory"
  | .nameTooLong => "[Errno 36] File name too long"

/-- Why an operation on a path fails. -/
inductive FileError where
  /-- An obstacle was met at the path. -/
  | met (obstacle : Obstacle) (path : Path)
  /-- The path holds a null byte. -/
  | nullByte
  deriving DecidableEq, Repr

/-- The words for an operation on a path that fails. -/
def FileError.message : FileError → String
  | .met obstacle path => obstacle.message ++ ": " ++ Text.quoted path.text
  | .nullByte => "embedded null byte"

/-- How many bytes a name may have. -/
def nameLimit : Nat := 255

/-- How many bytes a path may have. -/
def pathLimit : Nat := 4095

/-- The directories and files that exist, apart from the root, and the working directory. -/
structure FileTree where
  workingDirectory : Location
  entries : List (Location × Entry)
  deriving DecidableEq, Repr

namespace FileTree

/-- What stands at a location; the root is always a directory. -/
def entry? (tree : FileTree) : Location → Option Entry
  | [] => some .directory
  | location => Entries.find? location tree.entries

/-- Put an entry at a location. -/
def put (tree : FileTree) (location : Location) (entry : Entry) : FileTree :=
  { tree with entries := Entries.store location entry tree.entries }

/-- Remove a location and everything below it. -/
def remove (tree : FileTree) (location : Location) : FileTree :=
  { tree with entries := tree.entries.filter fun entry => !location.isPrefixOf entry.1 }

/-- The location that a starting point stands for. -/
def start (tree : FileTree) : Anchor → Location
  | .workingDirectory => tree.workingDirectory
  | _ => []

/-- The location that a part leads to. -/
def step (location : Location) (part : String) : Location :=
  if part = ".." then location.dropLast else location ++ [part]

/-- Follow parts from a location; every part is looked up in a directory. -/
def follow (tree : FileTree) (location : Location) : List String → Except Obstacle Location
  | [] => .ok location
  | part :: parts =>
      match tree.entry? location with
      | some .directory =>
          if nameLimit < part.utf8ByteSize then
            .error .nameTooLong
          else
            tree.follow (step location part) parts
      | some (.file _) => .error .notDirectory
      | none => .error .notFound

/-- The location that a path leads to. -/
def locate (tree : FileTree) (path : Path) : Except FileError Location :=
  if path.holdsNull then
    .error .nullByte
  else if pathLimit < path.text.utf8ByteSize then
    .error (.met .nameTooLong path)
  else
    (tree.follow (tree.start path.anchor) path.parts).mapError fun obstacle => .met obstacle path

/-- What a path leads to. -/
def lookup (tree : FileTree) (path : Path) : Option Entry :=
  match tree.locate path with
  | .ok location => tree.entry? location
  | .error _ => none

/-- Whether a path leads to a directory. -/
def isDirectory (tree : FileTree) (path : Path) : Bool :=
  tree.lookup path == some .directory

/-- Whether a path leads to a directory, where a path that leads nowhere is a plain no. -/
def probeDirectory (tree : FileTree) (path : Path) : Except FileError Bool :=
  match tree.locate path with
  | .ok location => .ok (tree.entry? location == some .directory)
  | .error (.met .notFound _) => .ok false
  | .error (.met .notDirectory _) => .ok false
  | .error error => .error error

/-- The content of the file that a path leads to. -/
def readFile (tree : FileTree) (path : Path) : Except FileError (List UInt8) :=
  match tree.locate path with
  | .error error => .error error
  | .ok location =>
      match tree.entry? location with
      | none => .error (.met .notFound path)
      | some .directory => .error (.met .isDirectory path)
      | some (.file content) => .ok content

/-- Write a file, new or in place of an old one. -/
def writeFile (tree : FileTree) (path : Path) (content : List UInt8) : Except FileError FileTree :=
  match tree.locate path with
  | .error error => .error error
  | .ok location =>
      match tree.entry? location with
      | some .directory => .error (.met .isDirectory path)
      | _ => .ok (tree.put location (.file content))

/-- Create a directory in a directory that is there. -/
def makeDirectory (tree : FileTree) (path : Path) : Except FileError FileTree :=
  match tree.locate path with
  | .error error => .error error
  | .ok location =>
      match tree.entry? location with
      | some _ => .error (.met .exists path)
      | none => .ok (tree.put location .directory)

/-- Create a directory unless it is there; the directory that is to hold it has to be there. -/
def ensureDirectory (tree : FileTree) (path : Path) : Except FileError FileTree :=
  match tree.makeDirectory path with
  | .ok changed => .ok changed
  | .error error => if tree.isDirectory path then .ok tree else .error error

/-- The tree after an attempt, which stays as it is when the attempt fails. -/
def ensured (tree : FileTree) : Except FileError FileTree → FileTree × Except FileError Unit
  | .ok changed => (changed, .ok ())
  | .error error => (tree, .error error)

/--
Create a directory and the missing ones above it, unless they are there.  The parts of the path are
given last first.  The tree is given back in any case, because directories that were created stay
when a later one cannot be.
-/
def ensureDirectoriesFrom (tree : FileTree) (anchor : Anchor) :
    List String → FileTree × Except FileError Unit
  | [] => tree.ensured (tree.ensureDirectory ⟨anchor, []⟩)
  | part :: above =>
      let path : Path := ⟨anchor, (part :: above).reverse⟩
      match tree.ensureDirectory path with
      | .error (.met .notFound _) =>
          match tree.ensureDirectoriesFrom anchor above with
          | (prepared, .ok ()) => prepared.ensured (prepared.ensureDirectory path)
          | (prepared, .error error) => (prepared, .error error)
      | outcome => tree.ensured outcome

/-- Create a directory and the missing ones above it, unless they are there. -/
def ensureDirectories (tree : FileTree) (path : Path) : FileTree × Except FileError Unit :=
  tree.ensureDirectoriesFrom path.anchor path.parts.reverse

/-- The absolute path of a path, with every parent part undone. -/
def resolve (tree : FileTree) (path : Path) : Except FileError Path :=
  if path.holdsNull then
    .error .nullByte
  else
    .ok ⟨.root, path.parts.foldl step (tree.start path.anchor)⟩

/-- The files of a tree with their contents. -/
def files (tree : FileTree) : List (Location × List UInt8) :=
  tree.entries.filterMap fun entry =>
    match entry.2 with
    | .file content => some (entry.1, content)
    | .directory => none

/-- A part that is longer than every part of every location, and so not in use. -/
def freshPart (tree : FileTree) (stem : String) : String :=
  let longest := (tree.entries.map fun entry =>
    (entry.1.map String.length).foldl max 0).foldl max 0
  stem ++ String.ofList (List.replicate (longest + 1) '0')

end FileTree

end FuncAdapter
