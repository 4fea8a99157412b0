import FuncAdapter.Document.Display
import FuncAdapter.FileSystem.Tree
import FuncAdapter.MessagePack.Reader
import FuncAdapter.MessagePack.Writer
import FuncAdapter.Program.Encoding

/-!
# Snapshots

A snapshot stores a program, so that generation can run later or where there is no scanner.  It is a
MessagePack map with the number of the format and the document of the program.

Every program can be written.  Reading refuses anything that is not such a map with the right
format, and says what is wrong with it.
-/

namespace FuncAdapter.Snapshot

/-- The number of the snapshot format. -/
def formatNumber : Int := 0

/-- The document of a snapshot. -/
def envelope (program : Program) : Document :=
  .record [("format", .integer formatNumber), ("program", program.toDocument)]

/-- The bytes of the snapshot of a program. -/
def dump (program : Program) : List UInt8 :=
  MessagePack.write (envelope program)

/-- Why a snapshot cannot be read. -/
inductive ReadError where
  /-- The path of the snapshot holds a null byte. -/
  | nullByte
  | unreadable (path : Path) (obstacle : Obstacle)
  | bytes (fault : MessagePack.Fault)
  | envelope
  | format (found : Document)
  | program (problem : Malformed)

/-- The words for a snapshot that cannot be read. -/
def ReadError.message : ReadError → String
  | .nullByte => FileError.nullByte.message
  | .unreadable path obstacle =>
      "cannot read snapshot " ++ path.text ++ ": " ++ (FileError.met obstacle path).message
  | .bytes fault => fault.message
  | .envelope => "invalid snapshot envelope"
  | .format found =>
      "unsupported snapshot format " ++ found.display ++ " (expected " ++ formatNumber.repr ++ ")"
  | .program problem => "invalid snapshot program: " ++ problem.message

/-- Whether a document counts as the number of the format, which false and both zeros do. -/
def isFormatNumber : Document → Bool
  | .integer value => value == formatNumber
  | .boolean value => !value
  | .real bits => Number.magnitude bits == .zero
  | _ => false

/-- The program that the document of a snapshot holds. -/
def ofEnvelope : Document → Except ReadError Program
  | .map entries =>
      match Entries.find? (Label.text "program") entries with
      | none => .error .envelope
      | some document =>
          let found := Document.valueAt "format" entries
          if isFormatNumber found then
            (Program.ofDocument document).mapError ReadError.program
          else
            .error (.format found)
  | _ => .error .envelope

/-- The program that the bytes of a snapshot hold. -/
def load (bytes : List UInt8) : Except ReadError Program := do
  let document ← (MessagePack.decode bytes).mapError ReadError.bytes
  ofEnvelope document

/-- A file that cannot be read, as a snapshot that cannot be read. -/
def ReadError.ofFile : FileError → ReadError
  | .met obstacle path => .unreadable path obstacle
  | .nullByte => .nullByte

/-- The program in a snapshot file. -/
def read (tree : FileTree) (path : Path) : Except ReadError Program := do
  let bytes ← (tree.readFile path).mapError ReadError.ofFile
  load bytes

/--
Write a snapshot file together with the missing directories above it.  The tree is given back in any
case, because the directories stay when the file cannot be written.
-/
def save (tree : FileTree) (path : Path) (program : Program) :
    FileTree × Except FileError Unit :=
  match tree.ensureDirectories path.parent with
  | (prepared, .error error) => (prepared, .error error)
  | (prepared, .ok ()) =>
      match prepared.writeFile path (dump program) with
      | .error error => (prepared, .error error)
      | .ok written => (written, .ok ())

end FuncAdapter.Snapshot
