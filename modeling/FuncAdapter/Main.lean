import FuncAdapter.CommandLine.Run

/-!
# The command

The outer layer of the command: it looks at the places of the file system that the arguments and the
environment name, carries out the run on that picture, and makes the changes of the run real.

The command starts no process of its own, so that a scan ends as it does without a Go toolchain;
snapshots are its source of programs.
-/

namespace FuncAdapter.Command

/-- What stands at a location of the file system. -/
def inspect (location : Location) : IO (Option Entry) := do
  try
    let content ← IO.FS.readBinFile ("/" ++ Text.join "/" location)
    return some (.file content.toList)
  catch
    | .inappropriateType _ 21 _ => return some .directory
    | _ => return none

/-- Every location on the way to the place that a path leads to. -/
def waypoints (start : Location) (parts : List String) : List Location :=
  (List.range (parts.length + 1)).map fun count =>
    (parts.take count).foldl FileTree.step start

/-- The picture of the file system at the given locations. -/
def survey (workingDirectory : Location) (locations : List Location) : IO FileTree := do
  let mut tree : FileTree := ⟨workingDirectory, []⟩
  for location in locations do
    if location.isEmpty then
      continue
    match ← inspect location with
    | some entry => tree := tree.put location entry
    | none => pure ()
  return tree

/-- The locations that matter to a run. -/
def concerned (environment : Environment) (workingDirectory : Location)
    (arguments : List String) : List Location :=
  let paths := environment.scratchParent ::
    match CommandLine.parse arguments with
    | .ok invocation =>
        [Path.ofString invocation.source, Path.ofString (invocation.savePath.getD "")]
    | .error _ => []
  waypoints [] workingDirectory ++ paths.flatMap fun path =>
    waypoints (FileTree.start ⟨workingDirectory, []⟩ path.anchor) path.parts

/-- Make the difference between two pictures real. -/
def apply (before after : FileTree) : IO Unit := do
  for (location, entry) in after.entries do
    unless before.entry? location = some entry do
      let path := "/" ++ Text.join "/" location
      match entry with
      | .directory => IO.FS.createDirAll path
      | .file content => IO.FS.writeBinFile path content.toByteArray

/-- The locations that an absolute path gives. -/
def locationOf (text : String) : Location :=
  (Path.ofString text).parts

end FuncAdapter.Command

open FuncAdapter in
/-- Run the command with the arguments and the environment of the process. -/
def main (arguments : List String) : IO UInt32 := do
  let workingDirectory := Command.locationOf (← IO.currentDir).toString
  let environment : Environment :=
    ⟨← IO.getEnv "GOINTERFACEFUNC_GO", ← IO.getEnv "GOINTERFACEFUNC_SCAN_DIR",
      Path.ofString ((← IO.getEnv "TMPDIR").getD "/tmp"), ""⟩
  let before ← Command.survey workingDirectory
    (Command.concerned environment workingDirectory arguments)
  let outcome := CommandLine.run ⟨environment, .missing, before⟩ arguments
  Command.apply before outcome.tree
  IO.print outcome.output
  IO.eprint outcome.errors
  match outcome.ending with
  | .exit status => return UInt32.ofNat status
  | .brokeOff breakdown =>
      IO.eprintln breakdown.message
      return 1
