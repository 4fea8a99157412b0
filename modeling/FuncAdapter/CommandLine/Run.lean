import FuncAdapter.Adapter
import FuncAdapter.CommandLine.Usage
import FuncAdapter.Scan
import FuncAdapter.Snapshot

/-!
# Runs of the command

A run obtains a program by scanning a directory or by reading a snapshot, saves it if a path is
given, and prints the adapter for the interface.  It is a function of the arguments, the
environment, the outcome of the scanning process and the file tree.

Errors of the user or of the input are reported and end the run with status one.  The run breaks off
when the name of the interface is empty, when a path is not fit for the operating system, when the
parent of the scratch directory cannot be created, when the snapshot cannot be written, or when the
adapter cannot be named or printed.
-/

namespace FuncAdapter

/-- The messages of a lookup: where the name was found, and that it can be adapted. -/
def Target.log (query : Query) (program : Program) : List LogLine :=
  if query.name.isEmpty then
    []
  else
    match program.find? query.name with
    | none => []
    | some binding =>
        ⟨.lookup, "found " ++ query.name ++ " in package " ++ binding.package.display ++
            " (" ++ binding.file.display ++ ")"⟩ ::
          match Target.resolve query program with
          | .error _ => []
          | .ok target =>
              [⟨.lookup, query.qualified ++ " is a single-method interface (" ++
                target.methodName ++ ")"⟩]

/-- The messages of a generation: those of the lookup, and what was generated. -/
def Adapter.log (query : Query) (program : Program) : List LogLine :=
  Target.log query program ++
    match Target.resolve query program, Adapter.generate query program with
    | .ok target, .ok _ =>
        [⟨.generation, "generated " ++ Adapter.typeName target ++ " for " ++ query.qualified⟩]
    | _, _ => []

namespace CommandLine

/-- What a run finds around it. -/
structure Surroundings where
  environment : Environment
  process : ProcessOutcome
  tree : FileTree
  deriving DecidableEq, Repr

/-- Why a run breaks off. -/
inductive Breakdown where
  | emptyName
  | notDistinct (failure : Naming.NotDistinct)
  | file (error : FileError)
  | source (error : RenderError)
  deriving DecidableEq, Repr

/-- The words for a run that breaks off. -/
def Breakdown.message : Breakdown → String
  | .emptyName => Refusal.emptyName.message
  | .notDistinct failure => failure.message
  | .file error => error.message
  | .source error => error.message

/-- What a run reports as an error. -/
inductive Complaint where
  | scan (error : ScanError)
  | snapshot (error : Snapshot.ReadError)
  | refusal (cause : Refusal)

/-- The words for what a run reports as an error. -/
def Complaint.message : Complaint → String
  | .scan error => error.message
  | .snapshot error => error.message
  | .refusal cause => cause.message

/-- How a run ends. -/
inductive Ending where
  | exit (status : Nat)
  | brokeOff (breakdown : Breakdown)
  deriving DecidableEq, Repr

/-- What a run leaves behind. -/
structure Outcome where
  ending : Ending
  output : String
  errors : String
  tree : FileTree
  deriving DecidableEq, Repr

/-- Why a run gives no declarations: an error that is reported, or one that breaks the run off. -/
inductive Failure where
  | reported (complaint : Complaint)
  | brokeOff (breakdown : Breakdown)

/-- What one step of a run gives: its result, its messages, and the tree after it. -/
structure Step (result : Type) where
  result : Except Failure result
  log : List LogLine
  tree : FileTree

/-- Scan failures as failures of a run. -/
def ofScanFailure : Scan.Failure → Failure
  | .scan error => .reported (.scan error)
  | .file error => .brokeOff (.file error)

/-- Failures to read a snapshot as failures of a run. -/
def ofReadError : Snapshot.ReadError → Failure
  | .nullByte => .brokeOff (.file .nullByte)
  | error => .reported (.snapshot error)

/-- Generation failures as failures of a run. -/
def ofAdapterFailure : Adapter.Failure → Failure
  | .refused .emptyName => .brokeOff .emptyName
  | .refused refusal => .reported (.refusal refusal)
  | .notDistinct failure => .brokeOff (.notDistinct failure)

/-- Obtain the program that the arguments ask for. -/
def obtain (surroundings : Surroundings) (invocation : Invocation) : Step Program :=
  let source := Path.ofString invocation.source
  if invocation.snapshot then
    ⟨(Snapshot.read surroundings.tree source).mapError ofReadError, [], surroundings.tree⟩
  else
    let report :=
      Scan.scan surroundings.environment surroundings.process surroundings.tree source
    ⟨report.result.mapError ofScanFailure, report.log, report.tree⟩

/-- Save the program if the arguments give a path that is not empty. -/
def saveIfAsked (invocation : Invocation) (tree : FileTree) (program : Program) :
    FileTree × Except Failure Unit :=
  match Environment.setting invocation.savePath with
  | none => (tree, .ok ())
  | some path =>
      let (saved, result) := Snapshot.save tree (Path.ofString path) program
      (saved, result.mapError fun error => .brokeOff (.file error))

/-- The query that the arguments ask. -/
def Invocation.query (invocation : Invocation) : Query :=
  ⟨invocation.source, invocation.interface⟩

/-- Carry out a run up to the declarations it is to print. -/
def perform (surroundings : Surroundings) (invocation : Invocation) : Step (List Decl) :=
  let obtained := obtain surroundings invocation
  match obtained.result with
  | .error failure => ⟨.error failure, obtained.log, obtained.tree⟩
  | .ok program =>
      match saveIfAsked invocation obtained.tree program with
      | (saved, .error failure) => ⟨.error failure, obtained.log, saved⟩
      | (saved, .ok ()) =>
          ⟨(Adapter.generate invocation.query program).mapError ofAdapterFailure,
            obtained.log ++ Adapter.log invocation.query program, saved⟩

/-- What a run leaves behind once it has been carried out. -/
def conclude (verbose : Bool) (step : Step (List Decl)) : Outcome :=
  let log := if verbose then logText step.log else ""
  match step.result with
  | .ok decls =>
      match render decls with
      | .ok text => ⟨.exit 0, text, log, step.tree⟩
      | .error error => ⟨.brokeOff (.source error), "", log, step.tree⟩
  | .error (.reported complaint) =>
      ⟨.exit 1, "", log ++ "error: " ++ complaint.message ++ "\n", step.tree⟩
  | .error (.brokeOff breakdown) => ⟨.brokeOff breakdown, "", log, step.tree⟩

/-- Run the command. -/
def run (surroundings : Surroundings) (arguments : List String) : Outcome :=
  match parse arguments with
  | .error .help => ⟨.exit 0, helpText, "", surroundings.tree⟩
  | .error .version => ⟨.exit 0, versionText, "", surroundings.tree⟩
  | .error (.misuse error) => ⟨.exit 2, "", misuseText error, surroundings.tree⟩
  | .ok invocation => conclude invocation.verbose (perform surroundings invocation)

end CommandLine

end FuncAdapter
