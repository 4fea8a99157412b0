import FuncAdapter.CommandLine.Run
import FuncAdapter.Proofs.Adapter.Location
import FuncAdapter.Proofs.CommandLine.Arguments
import FuncAdapter.Proofs.Scan
import FuncAdapter.Proofs.Snapshot.Files
import Mathlib

/-!
# Runs through a saved snapshot

A run that reads a snapshot ends like the run that scans the directory the snapshot was saved from:
with the same status and the same output, and with a message that differs only in the location.  The
later run needs neither the source directory nor the toolchain.

The directory may be scanned before the snapshot was saved or after it; saving takes no directory
away that a scan needs.
-/

namespace FuncAdapter.CommandLine

/-! ## Endings -/

/--
Two runs that ask for one name at two locations end alike: they print the same, or refuse with
messages that differ in the location only.
-/
def EndAlike (name first : String) (left : Outcome) (second : String) (right : Outcome) : Prop :=
  left.ending = right.ending ∧ left.output = right.output ∧
    (left.ending = .exit 0 ∧ left.errors = "" ∧ right.errors = "" ∨
      left.ending = .exit 1 ∧ ∃ before after,
        left.errors = "error: " ++ before ++ first ++ "." ++ name ++ after ++ "\n" ∧
          right.errors = "error: " ++ before ++ second ++ "." ++ name ++ after ++ "\n")

theorem ofAdapterFailure_refused {refusal : Refusal} (named : refusal ≠ .emptyName) :
    ofAdapterFailure (.refused refusal) = .reported (.refusal refusal) := by
  cases refusal with
  | emptyName => exact absurd rfl named
  | _ => rfl

/-- The step of a run that has its program and generates from it. -/
def generating (query : Query) (program : Program) (log : List LogLine) (tree : FileTree) :
    Step (List Decl) :=
  ⟨(Adapter.generate query program).mapError ofAdapterFailure, log, tree⟩

theorem endAlike_generating {name : String} (named : name ≠ "") {program : Program}
    (wellFormed : program.WellFormed) (first second : String) (firstLog secondLog : List LogLine)
    (firstTree secondTree : FileTree) :
    EndAlike name
      first (conclude false (generating ⟨first, name⟩ program firstLog firstTree))
      second (conclude false (generating ⟨second, name⟩ program secondLog secondTree)) := by
  rcases Adapter.generate_alike named wellFormed with
    ⟨decls, text, written, generated⟩ | ⟨refusal, ⟨named, before, after, worded⟩, refused⟩
  · have printed : ∀ location log tree,
        conclude false (generating ⟨location, name⟩ program log tree) =
          ⟨.exit 0, text, "", tree⟩ := by
      intro location log tree
      simp [conclude, generating, generated location, written]
    rw [printed, printed]
    exact ⟨rfl, rfl, .inl ⟨rfl, rfl, rfl⟩⟩
  · have reported : ∀ location log tree,
        conclude false (generating ⟨location, name⟩ program log tree) =
          ⟨.exit 1, "", "error: " ++ before ++ location ++ "." ++ name ++ after ++ "\n", tree⟩ := by
      intro location log tree
      have message : (Complaint.refusal (refusal ⟨location, name⟩)).message =
          before ++ (Query.mk location name).qualified ++ after := worded _
      simp [conclude, generating, refused location, ofAdapterFailure_refused (named _), message,
        Query.qualified, String.append_assoc]
    rw [reported, reported]
    exact ⟨rfl, rfl, .inr ⟨rfl, before, after, rfl, rfl⟩⟩

/-! ## Runs -/

/-- A run that obtains a program and saves it, whether or not it then finds the interface. -/
def Saves (surroundings : Surroundings) (arguments : List String) (program : Program) : Prop :=
  ∃ invocation, parse arguments = .ok invocation ∧
    (obtain surroundings invocation).result = .ok program ∧
    (saveIfAsked invocation (obtain surroundings invocation).tree program).2 = .ok ()

/-- The scan of a source that a run finds around it. -/
def scanOf (surroundings : Surroundings) (source : String) : Scan.Report :=
  Scan.scan surroundings.environment surroundings.process surroundings.tree (Path.ofString source)

theorem conclude_tree (verbose : Bool) (step : Step (List Decl)) :
    (conclude verbose step).tree = step.tree := by
  unfold conclude
  simp only
  split
  · split <;> rfl
  · rfl
  · rfl

theorem perform_eq_generating {surroundings : Surroundings} {invocation : Invocation}
    {program : Program} {saved : FileTree}
    (obtained : (obtain surroundings invocation).result = .ok program)
    (saves : saveIfAsked invocation (obtain surroundings invocation).tree program =
      (saved, .ok ())) :
    ∃ log, perform surroundings invocation =
      generating invocation.query program log saved := by
  refine ⟨(obtain surroundings invocation).log ++ Adapter.log invocation.query program, ?_⟩
  simp [perform, obtained, saves, generating]

/-- A run that saves goes on to generate from the program that it saved. -/
theorem Saves.run_eq {surroundings : Surroundings} {arguments : List String} {program : Program}
    (saves : Saves surroundings arguments program) :
    ∃ invocation log tree, parse arguments = .ok invocation ∧
      run surroundings arguments =
        conclude invocation.verbose (generating invocation.query program log tree) := by
  obtain ⟨invocation, parsed, obtained, saves⟩ := saves
  rcases saved : saveIfAsked invocation (obtain surroundings invocation).tree program with
    ⟨tree, result⟩
  rw [saved] at saves
  subst saves
  obtain ⟨log, performed⟩ := perform_eq_generating obtained saved
  refine ⟨invocation, log, tree, parsed, ?_⟩
  rw [run, parsed]
  exact congrArg (conclude invocation.verbose) performed

theorem run_of_obtain {surroundings : Surroundings} {arguments : List String}
    {location name : String} {snapshot : Bool} {program : Program}
    (parsed : parse arguments = .ok ⟨location, name, snapshot, false, none⟩)
    (obtained : (obtain surroundings ⟨location, name, snapshot, false, none⟩).result =
      .ok program) :
    ∃ log tree, run surroundings arguments =
      conclude false (generating ⟨location, name⟩ program log tree) := by
  have saves : Saves surroundings arguments program := ⟨_, parsed, obtained, rfl⟩
  obtain ⟨invocation, log, tree, parsedToo, ran⟩ := saves.run_eq
  cases parsed.symm.trans parsedToo
  exact ⟨log, tree, ran⟩

theorem run_source (surroundings : Surroundings) {source name : String} {program : Program}
    (plainSource : Undashed source) (plainName : Undashed name)
    (scanned : (scanOf surroundings source).result = .ok program) :
    ∃ log tree, run surroundings [source, name] =
      conclude false (generating ⟨source, name⟩ program log tree) :=
  run_of_obtain (parse_source plainSource plainName) (mapError_eq_ok_iff.mpr scanned)

theorem run_snapshot (surroundings : Surroundings) {path name : String} {program : Program}
    (plainPath : Undashed path) (plainName : Undashed name)
    (read : Snapshot.read surroundings.tree (Path.ofString path) = .ok program) :
    ∃ log tree, run surroundings [path, name, "--snapshot"] =
      conclude false (generating ⟨path, name⟩ program log tree) :=
  run_of_obtain (parse_snapshot plainPath plainName) (mapError_eq_ok_iff.mpr read)

theorem saveIfAsked_some {path : String} (somePath : path ≠ "") {invocation : Invocation}
    (asked : invocation.savePath = some path) (tree : FileTree) (program : Program) :
    saveIfAsked invocation tree program =
      ((Snapshot.save tree (Path.ofString path) program).1,
        (Snapshot.save tree (Path.ofString path) program).2.mapError fun error =>
          .brokeOff (.file error)) := by
  have given : Environment.setting invocation.savePath = some path := by
    simp [asked, Environment.setting, somePath]
  rw [saveIfAsked, given]

/-- A run that saves a snapshot has scanned the source, and its tree is the one after saving. -/
theorem of_saves {surroundings : Surroundings} {source interface path : String}
    {program : Program} (plainSource : Undashed source) (plainPath : Undashed path)
    (somePath : path ≠ "")
    (saves : Saves surroundings [source, interface, "--save-snapshot", path] program) :
    (scanOf surroundings source).result = .ok program ∧
      (Snapshot.save (scanOf surroundings source).tree (Path.ofString path) program).2 = .ok () ∧
      (run surroundings [source, interface, "--save-snapshot", path]).tree =
        (Snapshot.save (scanOf surroundings source).tree (Path.ofString path) program).1 := by
  obtain ⟨invocation, parsed, obtained, saves⟩ := saves
  cases eq_of_parse_saveSnapshot plainSource plainPath parsed
  rcases saved : Snapshot.save (scanOf surroundings source).tree (Path.ofString path) program with
    ⟨tree, result⟩
  have asked : saveIfAsked ⟨source, interface, false, false, some path⟩
      (scanOf surroundings source).tree program =
        (tree, result.mapError fun error => .brokeOff (.file error)) := by
    rw [saveIfAsked_some somePath rfl, saved]
  have succeeds : result = .ok () := by
    change (saveIfAsked _ (scanOf surroundings source).tree program).2 = _ at saves
    rw [asked] at saves
    exact mapError_eq_ok_iff.mp saves
  subst succeeds
  obtain ⟨log, performed⟩ := perform_eq_generating obtained asked
  refine ⟨mapError_eq_ok_iff.mp obtained, rfl, ?_⟩
  rw [run, parsed]
  simp only [performed, conclude_tree]
  rfl

/--
Once a run has scanned a source and saved a snapshot, a run that reads the snapshot ends like a run
that scans the source, for every interface and whatever became of the environment and the toolchain.
-/
theorem run_saved_endAlike {surroundings : Surroundings} {source interface path name : String}
    {program : Program} (plainSource : Undashed source) (plainPath : Undashed path)
    (somePath : path ≠ "") (plainName : Undashed name) (someName : name ≠ "")
    (saves : Saves surroundings [source, interface, "--save-snapshot", path] program)
    (short : MessagePack.longest (Snapshot.envelope program) < 2 ^ 32)
    (shallow : MessagePack.depth (Snapshot.envelope program) ≤ 1024)
    (environment : Environment) (process : ProcessOutcome) (tree : FileTree)
    (beforeOrAfter : tree = surroundings.tree ∨
      tree = (run surroundings [source, interface, "--save-snapshot", path]).tree) :
    EndAlike name
      source (run ⟨surroundings.environment, surroundings.process, tree⟩ [source, name])
      path (run ⟨environment, process,
        (run surroundings [source, interface, "--save-snapshot", path]).tree⟩
        [path, name, "--snapshot"]) := by
  obtain ⟨scanned, stored, sameTree⟩ := of_saves plainSource plainPath somePath saves
  rw [sameTree] at beforeOrAfter ⊢
  obtain ⟨-, -, resolved, -, interpreted⟩ := Scan.of_scan_eq_ok scanned
  obtain ⟨document, read⟩ := Scan.exists_ofDocument_of_interpret interpreted
  have wellFormed := Program.wellFormed_of_ofDocument read
  have scannedThen : (scanOf ⟨surroundings.environment, surroundings.process, tree⟩ source).result =
      .ok program := by
    rcases beforeOrAfter with rfl | rfl
    · exact scanned
    · exact Scan.scan_again scanned (Snapshot.readFile_of_save stored).1
  have readBack := Snapshot.read_of_save wellFormed short shallow stored
  obtain ⟨directLog, directTree, direct⟩ := run_source _ plainSource plainName scannedThen
  obtain ⟨laterLog, laterTree, later⟩ :=
    run_snapshot ⟨environment, process, _⟩ plainPath plainName readBack
  rw [direct, later]
  exact endAlike_generating someName wellFormed source path _ _ _ _

theorem Saves.of_scanOf {surroundings : Surroundings} {arguments : List String}
    {source interface path : String} {program : Program} (somePath : path ≠ "")
    (parsed : parse arguments = .ok ⟨source, interface, false, false, some path⟩)
    (scanned : (scanOf surroundings source).result = .ok program)
    (stored : (Snapshot.save (scanOf surroundings source).tree (Path.ofString path) program).2 =
      .ok ()) :
    Saves surroundings arguments program := by
  refine ⟨_, parsed, mapError_eq_ok_iff.mpr scanned, ?_⟩
  rw [saveIfAsked_some somePath rfl]
  exact mapError_eq_ok_iff.mpr stored

/-- What the helper prints for a package with one interface. -/
def closerOutput : String :=
  "\x7b\"packages\":\x7b\"p\":\x7b\"files\":\x7b\"f\":\x7b\"objects\":\x7b" ++
    "\"C\":\x7b\"kind\":\"type\",\"decl\":\x7b\"name\":\"C\",\"type\":" ++
    "\x7b\"node\":\"InterfaceType\",\"methods\":[\x7b\"names\":[\"M\"],\"type\":" ++
    "\x7b\"node\":\"FuncType\"\x7d\x7d]\x7d\x7d\x7d\x7d\x7d\x7d\x7d\x7d\x7d"

/-- The program that it stands for. -/
def closerProgram : Program :=
  ⟨.ofEntries [(.text "p", ⟨.ofEntries [(.text "f", ⟨.ofEntries
    [(.text "C", ⟨.type, some ⟨"C", .interface [.mk ["M"] (.func [] none)], none⟩⟩)]⟩)]⟩)]⟩

/-- A directory with the package, and a toolchain that prints this. -/
def closerSurroundings : Surroundings where
  environment := ⟨none, none, ⟨.root, ["tmp"]⟩, "package main\n"⟩
  process := .finished 0 closerOutput ""
  tree := ⟨["work"], [(["work"], .directory), (["work", "p"], .directory)]⟩

theorem scanOf_closerSurroundings :
    (scanOf closerSurroundings "p").result = .ok closerProgram := by
  cbv

theorem saves_closerProgram :
    Saves closerSurroundings ["p", "Missing", "--save-snapshot", "out/p.snap"] closerProgram := by
  have stored : (Snapshot.save (scanOf closerSurroundings "p").tree (Path.ofString "out/p.snap")
      closerProgram).2 = .ok () := by
    rw [scanOf, Scan.scan_tree _ .missing]
    rfl
  have parsed : parse ["p", "Missing", "--save-snapshot", "out/p.snap"] =
      .ok ⟨"p", "Missing", false, false, some "out/p.snap"⟩ := rfl
  exact .of_scanOf (by decide) parsed scanOf_closerSurroundings stored

theorem run_saved_endAlike_closer :
    Saves closerSurroundings ["p", "Missing", "--save-snapshot", "out/p.snap"] closerProgram ∧
      MessagePack.longest (Snapshot.envelope closerProgram) < 2 ^ 32 ∧
      MessagePack.depth (Snapshot.envelope closerProgram) ≤ 1024 ∧
      EndAlike "C" "p" (run closerSurroundings ["p", "C"])
        "out/p.snap" (run ⟨closerSurroundings.environment, .missing,
          (run closerSurroundings ["p", "Missing", "--save-snapshot", "out/p.snap"]).tree⟩
          ["out/p.snap", "C", "--snapshot"]) := by
  have short : MessagePack.longest (Snapshot.envelope closerProgram) < 2 ^ 32 := by decide +kernel
  have shallow : MessagePack.depth (Snapshot.envelope closerProgram) ≤ 1024 := by decide
  exact ⟨saves_closerProgram, short, shallow,
    run_saved_endAlike (by decide) (by decide) (by decide) (by decide) (by decide)
      saves_closerProgram short shallow _ _ _ (.inl rfl)⟩

end FuncAdapter.CommandLine
