import FuncAdapter.FileSystem.Tree
import FuncAdapter.Json.Reader
import FuncAdapter.Log
import FuncAdapter.Program.Encoding
import FuncAdapter.Text.Utf8

/-!
# Scanning source directories

A Go helper program scans a directory and prints the document of the program as JSON.  The helper is
written to a scratch directory and run there by the Go toolchain; the scratch directory is removed
again whatever happens.

The toolchain is an external tool.  A scan is therefore a function of the file tree, the environment
and the outcome of the process.
-/

namespace FuncAdapter

/-- What a run takes from the environment of the process. -/
structure Environment where
  /-- The command given in place of the usual one. -/
  goCommand : Option String
  /-- The directory given for scratch directories. -/
  scratchRoot : Option String
  /-- The usual directory for temporary files. -/
  temporaryDirectory : Path
  /-- The source text of the helper program. -/
  helperSource : String
  deriving DecidableEq, Repr

namespace Environment

/-- A setting that is given and not empty. -/
def setting (value : Option String) : Option String :=
  value.filter fun text => !text.isEmpty

/-- The command that runs the Go toolchain. -/
def command (environment : Environment) : String :=
  (setting environment.goCommand).getD "go"

/-- The directory that scratch directories are created in. -/
def scratchParent (environment : Environment) : Path :=
  match setting environment.scratchRoot with
  | some text => Path.ofString text
  | none => environment.temporaryDirectory

end Environment

/-- What became of the process that was to scan a directory. -/
inductive ProcessOutcome where
  /-- The command does not exist. -/
  | missing
  | finished (status : Int) (output errors : String)
  deriving DecidableEq, Repr

/-- Why a directory could not be scanned. -/
inductive ScanError where
  | noDirectory (source : Path)
  | noToolchain (command : String)
  | failed (source : Path) (output errors : String)
  | notJson (fault : Json.Fault) (output : String)
  | unexpected (problem : Malformed)
  deriving DecidableEq, Repr

/-- The words for a scan that failed. -/
def ScanError.message : ScanError → String
  | .noDirectory source => "source directory not found: " ++ source.text
  | .noToolchain command =>
      "Go toolchain not found (`" ++ command ++ "` is missing from PATH). " ++
        "Install Go, or set GOINTERFACEFUNC_GO to the go executable. " ++
        "A program snapshot can be used instead with --snapshot."
  | .failed source output errors =>
      "go scan failed for " ++ source.text ++ "\n" ++ errors ++ output
  | .notJson fault output =>
      "failed to parse go scan output: " ++ fault.message ++ "\n" ++ output
  | .unexpected problem => "unexpected go scan output: " ++ problem.message

namespace Scan

/-- Why a scan gave no program. -/
inductive Failure where
  | scan (error : ScanError)
  /-- The source could not be looked at, or the scratch directory has no place. -/
  | file (error : FileError)
  deriving DecidableEq, Repr

/-- The words for a scan that gave no program. -/
def Failure.message : Failure → String
  | .scan error => error.message
  | .file error => error.message

/-- A process that was started. -/
structure Run where
  command : List String
  /-- The scratch directory, which the process was started in. -/
  directory : Path
  /-- The files in the scratch directory. -/
  files : List (String × String)
  deriving DecidableEq, Repr

/-- What a scan did. -/
structure Report where
  result : Except Failure Program
  run : Option Run
  log : List LogLine
  tree : FileTree

/-- What the names of scratch directories begin with. -/
def scratchStem : String := "gointerfacefunc-goscan-"

/-- The module file of the helper program. -/
def moduleFile : String := "module gointerfacefunc.goscan\n\ngo 1.22\n"

/-- The files of the helper program. -/
def helperFiles (environment : Environment) : List (String × String) :=
  [("go.mod", moduleFile), ("main.go", environment.helperSource)]

/-- The program that the output of the helper stands for. -/
def readOutput (output : String) : Except ScanError Program :=
  match Json.parse output with
  | .error fault => .error (.notJson fault output)
  | .ok document => (Program.ofDocument document).mapError ScanError.unexpected

/-- The program that a process gave. -/
def interpret (command : String) (source : Path) : ProcessOutcome → Except ScanError Program
  | .missing => .error (.noToolchain command)
  | .finished status output errors =>
      if status = 0 then readOutput output else .error (.failed source output errors)

/-- The message that tells which process is started. -/
def startLine (run : Run) : LogLine :=
  ⟨.scan, "running " ++ Text.join " " run.command ++ " in " ++ run.directory.text⟩

/-- The message that tells what was scanned. -/
def doneLine (source : Path) (program : Program) : LogLine :=
  ⟨.scan, "scanned " ++ program.packages.size.repr ++ " package(s), " ++
    program.fileCount.repr ++ " file(s) in " ++ source.text⟩

/-- Write texts as files of a directory. -/
def writeFiles (tree : FileTree) (location : Location) (files : List (String × String)) :
    FileTree :=
  files.foldl
    (fun tree file => tree.put (location ++ [file.1]) (.file (Text.Utf8.encode file.2))) tree

/-- Run the helper in a scratch directory below a location, and remove the directory again. -/
def runHelper
    (environment : Environment)
    (outcome : ProcessOutcome)
    (source : Path)
    (tree : FileTree)
    (parent : Location) :
    Report :=
  let part := tree.freshPart scratchStem
  let scratch := parent ++ [part]
  let run : Run :=
    ⟨[environment.command, "run", ".", "--dir", source.text],
      environment.scratchParent.child part, helperFiles environment⟩
  let populated := writeFiles (tree.put scratch .directory) scratch run.files
  let cleaned := populated.remove scratch
  match interpret environment.command source outcome with
  | .error error => ⟨.error (.scan error), some run, [startLine run], cleaned⟩
  | .ok program => ⟨.ok program, some run, [startLine run, doneLine source program], cleaned⟩

/-- The absolute path of a source, which has to be a directory. -/
def findSource (tree : FileTree) (source : Path) : Except Failure Path := do
  let resolved ← (tree.resolve source).mapError Failure.file
  let found ← (tree.probeDirectory resolved).mapError Failure.file
  if found then
    return resolved
  else
    throw (.scan (.noDirectory resolved))

/-- Scan a source directory. -/
def scan
    (environment : Environment)
    (outcome : ProcessOutcome)
    (tree : FileTree)
    (source : Path) :
    Report :=
  match findSource tree source with
  | .error failure => ⟨.error failure, none, [], tree⟩
  | .ok resolved =>
      match tree.ensureDirectories environment.scratchParent with
      | (prepared, .error error) => ⟨.error (.file error), none, [], prepared⟩
      | (prepared, .ok ()) =>
          match prepared.locate environment.scratchParent with
          | .error error => ⟨.error (.file error), none, [], prepared⟩
          | .ok parent => runHelper environment outcome resolved prepared parent

end Scan

end FuncAdapter
