import FuncAdapter.Proofs.CommandLine.Endings

/-!
# What runs do to files

A run changes the content of at most one file: the one that the path for a snapshot leads to, if the
arguments give one that is not empty.  It changes that file only once it has its program, and then
the file holds the snapshot of the program, however the run ends afterwards.  A snapshot that cannot
be written breaks the run off and changes no file.

Runs in one directory follow each other, and each finds what the earlier ones left.  After all of
them, every file has the content that it had at first or the snapshot that one of the runs saved
there.
-/

namespace FuncAdapter.CommandLine

/-! ## Sessions -/

/-- What is asked at one moment: arguments, with the environment and the process of that moment. -/
structure Request where
  environment : Environment
  process : ProcessOutcome
  arguments : List String
  deriving DecidableEq, Repr

namespace Request

variable (request : Request) (tree : FileTree)

/-- What a request finds around it when it is run on a tree. -/
def surroundings : Surroundings :=
  ⟨request.environment, request.process, tree⟩

/-- Run a request on a tree. -/
def outcome : Outcome :=
  run (request.surroundings tree) request.arguments

/-- The tree after a request. -/
def after : FileTree :=
  (request.outcome tree).tree

/-- A request is a run that obtains a program, from a scan or from a snapshot. -/
def Obtains (invocation : Invocation) (program : Program) : Prop :=
  parse request.arguments = .ok invocation ∧
    (obtain (request.surroundings tree) invocation).result = .ok program

/-- A request obtains a program and gives a path that it is to be saved at. -/
def Asks (path : String) (program : Program) : Prop :=
  ∃ invocation, request.Obtains tree invocation program ∧
    invocation.savePath = some path ∧ path ≠ ""

end Request

/-- The tree after requests that are run one after the other. -/
def treeAfter (tree : FileTree) (requests : List Request) : FileTree :=
  requests.foldl (fun tree request => request.after tree) tree

variable {request : Request} {tree : FileTree}

/-! ## One run -/

theorem setting_eq_some_iff {value : Option String} {text : String} :
    Environment.setting value = some text ↔ value = some text ∧ text ≠ "" := by
  rw [Environment.setting, Option.filter_eq_some_iff]
  simp

/-- What is asked, in terms of the invocation that the arguments stand for. -/
theorem Request.asks_iff {invocation : Invocation}
    (parsed : parse request.arguments = .ok invocation) {path : String} {program : Program} :
    request.Asks tree path program ↔
      (obtain (request.surroundings tree) invocation).result = .ok program ∧
        Environment.setting invocation.savePath = some path := by
  rw [setting_eq_some_iff]
  constructor
  · rintro ⟨other, ⟨parsedToo, obtained⟩, given⟩
    cases parsed.symm.trans parsedToo
    exact ⟨obtained, given⟩
  · rintro ⟨obtained, given⟩
    exact ⟨invocation, ⟨parsed, obtained⟩, given⟩

theorem Request.Asks.unique {first second : String} {program other : Program}
    (asks : request.Asks tree first program) (asksToo : request.Asks tree second other) :
    first = second ∧ program = other := by
  have ⟨invocation, ⟨parsed, _⟩, _⟩ := asks
  obtain ⟨obtained, given⟩ := (Request.asks_iff parsed).mp asks
  obtain ⟨obtainedToo, givenToo⟩ := (Request.asks_iff parsed).mp asksToo
  rw [given] at givenToo
  rw [obtained] at obtainedToo
  exact ⟨Option.some.inj givenToo, Except.ok.inj obtainedToo⟩

theorem sameFiles_obtain (surroundings : Surroundings) (invocation : Invocation) :
    surroundings.tree.SameFiles (obtain surroundings invocation).tree := by
  rw [obtain]
  split
  · exact .refl _
  · exact Scan.sameFiles_scan surroundings.tree

theorem obtain_tree_of_scan {surroundings : Surroundings} {invocation : Invocation}
    (scans : invocation.snapshot = false) :
    (obtain surroundings invocation).tree = (scanOf surroundings invocation.source).tree := by
  rw [obtain, if_neg (by simp [scans])]
  rfl

theorem after_of_parse {invocation : Invocation}
    (parsed : parse request.arguments = .ok invocation) :
    request.after tree = (perform (request.surroundings tree) invocation).tree := by
  rw [Request.after, Request.outcome, run, parsed]
  exact conclude_tree _ _

theorem after_of_parse_error {stop : Stop} (stopped : parse request.arguments = .error stop) :
    request.after tree = tree := by
  rw [Request.after, Request.outcome, run, stopped]
  cases stop <;> rfl

/-- A snapshot was to be saved and was not, which broke the run off and left all files alone. -/
structure Unsaved (request : Request) (tree : FileTree) (path : String) (program : Program)
    (error : FileError) : Prop where
  failed : ∃ invocation, request.Obtains tree invocation program ∧
    (Snapshot.save (obtain (request.surroundings tree) invocation).tree (Path.ofString path)
      program).2 = .error error
  brokeOff : (request.outcome tree).ending = .brokeOff (.file error)
  sameFiles : tree.SameFiles (request.after tree)
  cause : (∃ obstacle place, error = .met obstacle place) ∨
    error = .nullByte ∧ (Path.ofString path).holdsNull = true

/-- A run that is ready has left all files alone, or has written its snapshot and nothing else. -/
theorem files_of_ready {surroundings : Surroundings} {invocation : Invocation} {program : Program}
    {saved : FileTree} (ready : Ready surroundings invocation program saved) :
    (Environment.setting invocation.savePath = none ∧ surroundings.tree.SameFiles saved) ∨
    ∃ path location, Environment.setting invocation.savePath = some path ∧
      saved.locate (Path.ofString path) = .ok location ∧
      surroundings.tree.Writes location (Snapshot.dump program) saved := by
  obtain ⟨-, saves⟩ := ready
  have obtains := sameFiles_obtain surroundings invocation
  rw [saveIfAsked] at saves
  split at saves
  · next unasked =>
      cases saves
      exact .inl ⟨unasked, obtains⟩
  · next path asked =>
      obtain ⟨rfl, succeeds⟩ := Prod.mk.inj saves
      obtain ⟨location, located, writes⟩ :=
        Snapshot.writes_of_save (mapError_eq_ok_iff.mp succeeds)
      exact .inr ⟨path, location, asked, located, obtains.writes writes⟩

theorem unsaved_of_perform {invocation : Invocation} {program : Program} {path : String}
    {error : FileError} {log : List LogLine}
    (obtains : request.Obtains tree invocation program)
    (failed : (Snapshot.save (obtain (request.surroundings tree) invocation).tree
      (Path.ofString path) program).2 = .error error)
    (performed : perform (request.surroundings tree) invocation =
      ⟨.error (.brokeOff (.file error)), log,
        (Snapshot.save (obtain (request.surroundings tree) invocation).tree
          (Path.ofString path) program).1⟩) :
    Unsaved request tree path program error := by
  obtain ⟨same, unfit⟩ := Snapshot.sameFiles_of_save_error failed
  constructor
  · exact ⟨invocation, obtains, failed⟩
  · rw [Request.outcome, run, obtains.1]
    simp only [performed]
    rfl
  · rw [after_of_parse obtains.1, performed]
    exact (sameFiles_obtain (request.surroundings tree) invocation).trans same
  · cases error with
    | met obstacle place => exact .inl ⟨obstacle, place, rfl⟩
    | nullByte => exact .inr ⟨rfl, unfit rfl⟩

/-- What a request can do to files: nothing, or nothing for a cause, or save its snapshot. -/
theorem files_of_request (request : Request) (tree : FileTree) :
    (tree.SameFiles (request.after tree) ∧ ∀ path program, ¬ request.Asks tree path program) ∨
    (∃ path program error,
      request.Asks tree path program ∧ Unsaved request tree path program error) ∨
    ∃ path program location,
      request.Asks tree path program ∧
        (request.after tree).locate (Path.ofString path) = .ok location ∧
        tree.Writes location (Snapshot.dump program) (request.after tree) := by
  cases parsed : parse request.arguments with
  | error stop =>
      left
      rw [after_of_parse_error parsed]
      refine ⟨.refl tree, ?_⟩
      rintro path program ⟨invocation, ⟨parsedToo, -⟩, -⟩
      cases parsed.symm.trans parsedToo
  | ok invocation =>
      rw [after_of_parse parsed]
      simp only [Request.asks_iff parsed]
      rcases perform_cases (request.surroundings tree) invocation with
        ⟨failure, log, failed, performed⟩ |
          ⟨program, path, error, log, obtained, asked, failed, performed⟩ |
          ⟨program, saved, log, ready, performed⟩
      · left
        rw [performed, failed]
        exact ⟨sameFiles_obtain (request.surroundings tree) invocation, nofun⟩
      · right; left
        exact ⟨path, program, error, ⟨obtained, asked⟩,
          unsaved_of_perform ⟨parsed, obtained⟩ failed performed⟩
      · rw [performed]
        rcases files_of_ready ready with ⟨unasked, same⟩ | ⟨path, location, asked, located, writes⟩
        · left
          rw [unasked]
          exact ⟨same, nofun⟩
        · right; right
          exact ⟨path, program, location, ⟨ready.1, asked⟩, located, writes⟩

/-- What a request does to the files of a tree. -/
structure Effect (request : Request) (tree : FileTree) : Prop where
  /-- A file that changes is the one that the path leads to, and holds the snapshot. -/
  changed : ∀ location, (request.after tree).content? location ≠ tree.content? location →
    ∃ path program, request.Asks tree path program ∧
      (request.after tree).locate (Path.ofString path) = .ok location ∧
      (request.after tree).content? location = some (Snapshot.dump program)
  atMostOne : ∀ first second,
    (request.after tree).content? first ≠ tree.content? first →
    (request.after tree).content? second ≠ tree.content? second → first = second
  /-- A snapshot that is asked for is there afterwards, unless it cannot be written. -/
  saved : ∀ path program, request.Asks tree path program →
    (request.after tree).readFile (Path.ofString path) = .ok (Snapshot.dump program) ∨
      ∃ error, Unsaved request tree path program error
  /-- Without a program, no file changes, whatever the path for a snapshot leads to. -/
  unobtained : (∀ invocation program, ¬ request.Obtains tree invocation program) →
    tree.SameFiles (request.after tree)

theorem changed_of_request (request : Request) (tree : FileTree) (location : Location)
    (changed : (request.after tree).content? location ≠ tree.content? location) :
    ∃ path program, request.Asks tree path program ∧
      (request.after tree).locate (Path.ofString path) = .ok location ∧
      (request.after tree).content? location = some (Snapshot.dump program) := by
  rcases files_of_request request tree with
    ⟨same, -⟩ | ⟨path, program, error, -, unsaved⟩ | ⟨path, program, place, asks, located, writes⟩
  · exact absurd (same location) changed
  · exact absurd (unsaved.sameFiles location) changed
  · by_cases here : location = place
    · subst here
      exact ⟨path, program, asks, located, writes.written⟩
    · exact absurd (writes.others location here) changed

theorem effect_of_request (request : Request) (tree : FileTree) : Effect request tree where
  changed := changed_of_request request tree
  atMostOne first second changed changedToo := by
    obtain ⟨path, program, asks, located, -⟩ := changed_of_request request tree first changed
    obtain ⟨pathToo, programToo, asksToo, locatedToo, -⟩ :=
      changed_of_request request tree second changedToo
    obtain ⟨rfl, -⟩ := asks.unique asksToo
    rw [located] at locatedToo
    exact Except.ok.inj locatedToo
  saved path program asks := by
    rcases files_of_request request tree with
      ⟨-, unasked⟩ | ⟨pathToo, programToo, error, asksToo, unsaved⟩ |
        ⟨pathToo, programToo, place, asksToo, located, writes⟩
    · exact absurd asks (unasked path program)
    · obtain ⟨rfl, rfl⟩ := asks.unique asksToo
      exact .inr ⟨error, unsaved⟩
    · obtain ⟨rfl, rfl⟩ := asks.unique asksToo
      exact .inl (FileTree.readFile_of_content? located writes.written)
  unobtained none location := by
    by_contra changed
    obtain ⟨path, program, ⟨invocation, obtains, -⟩, -⟩ :=
      changed_of_request request tree location changed
    exact none invocation program obtains

/-! ## Any number of runs -/

/-- The last content of a file is the first one, or was saved there by one of the requests. -/
theorem content?_treeAfter (tree : FileTree) (requests : List Request) (location : Location) :
    (treeAfter tree requests).content? location = tree.content? location ∨
      ∃ earlier request later path program,
        requests = earlier ++ request :: later ∧
          request.Asks (treeAfter tree earlier) path program ∧
          (request.after (treeAfter tree earlier)).locate (Path.ofString path) = .ok location ∧
          (treeAfter tree requests).content? location = some (Snapshot.dump program) := by
  -- The first request may change the file; what the others do starts from the tree after it.
  induction requests generalizing tree with
  | nil => exact .inl rfl
  | cons request requests ih =>
      change (treeAfter (request.after tree) requests).content? location = _ ∨ _
      rcases ih (request.after tree) with same |
        ⟨earlier, saver, later, path, program, rfl, asks, located, stored⟩
      · by_cases changed :
            (request.after tree).content? location = tree.content? location
        · exact .inl (same.trans changed)
        · right
          obtain ⟨path, program, asks, located, stored⟩ :=
            (effect_of_request request tree).changed location changed
          exact ⟨[], request, requests, path, program, rfl, asks, located, same.trans stored⟩
      · exact .inr ⟨request :: earlier, saver, later, path, program, rfl, asks, located, stored⟩

/-- A request in the directory with the package, while the toolchain is there. -/
def closerRequest (arguments : List String) : Request :=
  ⟨closerSurroundings.environment, closerSurroundings.process, arguments⟩

theorem asks_closerRequest {arguments : List String} {interface path : String}
    (parsed : parse arguments = .ok ⟨"p", interface, false, false, some path⟩)
    (somePath : path ≠ "") :
    (closerRequest arguments).Asks closerSurroundings.tree path closerProgram :=
  ⟨_, ⟨parsed, mapError_eq_ok_iff.mpr scanOf_closerSurroundings⟩, rfl, somePath⟩

/-- Without the toolchain, a scan obtains nothing. -/
theorem not_obtains_of_missing {invocation : Invocation} {program : Program}
    (absent : request.process = .missing) (scans : invocation.snapshot = false) :
    ¬ request.Obtains tree invocation program := by
  rintro ⟨-, obtained⟩
  rw [obtain, if_neg (by simp [scans])] at obtained
  obtain ⟨-, -, resolved, -, interpreted⟩ :=
    Scan.of_scan_eq_ok (mapError_eq_ok_iff.mp obtained)
  rw [Request.surroundings, absent] at interpreted
  cases interpreted

end FuncAdapter.CommandLine
