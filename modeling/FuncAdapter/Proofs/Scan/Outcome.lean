import FuncAdapter.Proofs.Scan

/-!
# How scans end

A scan goes through three stages: it looks for the source directory, it prepares the place for
scratch directories, and it takes what the process gives.  The process is started exactly when the
first two stages succeed, and there is a program exactly when all three do.

Errors of the operating system break a scan off in the first two stages; every other failure is
reported as an error of the scan.  In the first stage it is the path of the source that the
operating system does not take.  A path that leads nowhere is reported, but one with a null byte, or
with a name that is too long, is not.

Whatever happens, the place for scratch directories may be new in the tree and nothing else is: the
scratch directory is gone, and every file is as it was.
-/

namespace FuncAdapter.Scan

variable {environment : Environment} {outcome : ProcessOutcome} {tree : FileTree} {source : Path}

/-! ## Stages -/

/-- The source, made absolute, leads to a directory. -/
def SourceThere (tree : FileTree) (source : Path) : Prop :=
  ∃ resolved, tree.resolve source = .ok resolved ∧ tree.isDirectory resolved = true

/-- The directory for scratch directories is there or could be created. -/
def ScratchReady (environment : Environment) (tree : FileTree) : Prop :=
  (tree.ensureDirectories environment.scratchParent).2 = .ok ()

theorem sourceThere_iff :
    SourceThere tree source ↔ ∃ resolved, findSource tree source = .ok resolved := by
  simp only [SourceThere, findSource_eq_ok_iff]

/-- A source that is there can be looked at. -/
theorem SourceThere.not_unfit (there : SourceThere tree source) (error : FileError) :
    ¬ SourceUnfit tree source error := by
  obtain ⟨resolved, found⟩ := sourceThere_iff.mp there
  intro unfit
  rw [findSource_eq_file_iff.mpr unfit] at found
  cases found

theorem not_scratchReady_iff :
    ¬ ScratchReady environment tree ↔
      ∃ error, (tree.ensureDirectories environment.scratchParent).2 = .error error := by
  rw [ScratchReady]
  rcases (tree.ensureDirectories environment.scratchParent).2 with error | ⟨⟩ <;> simp

/-! ## Results -/

theorem scan_eq_ok_iff {program : Program} :
    (scan environment outcome tree source).result = .ok program ↔
      SourceThere tree source ∧ ScratchReady environment tree ∧ Delivers outcome program := by
  rw [scan_result_eq, sourceThere_iff]
  constructor
  · intro succeeds
    obtain ⟨resolved, found, succeeds⟩ := exists_of_bind_eq_ok succeeds
    obtain ⟨⟨⟩, prepared, succeeds⟩ := exists_of_bind_eq_ok succeeds
    rw [mapError_eq_ok_iff] at prepared succeeds
    exact ⟨⟨resolved, found⟩, prepared, interpret_eq_ok_iff.mp succeeds⟩
  · rintro ⟨⟨resolved, found⟩, ready, delivers⟩
    have made : (tree.ensureDirectories environment.scratchParent).2 = .ok () := ready
    rw [found, ok_bind, made, mapError_ok, ok_bind, mapError_eq_ok_iff]
    exact interpret_eq_ok_iff.mpr delivers

theorem scan_eq_file_iff {error : FileError} :
    (scan environment outcome tree source).result = .error (.file error) ↔
      SourceUnfit tree source error ∨
        SourceThere tree source ∧
          (tree.ensureDirectories environment.scratchParent).2 = .error error := by
  constructor
  · intro failed
    rcases cause_of_scan_file_error failed with unfound | ⟨resolved, found, unmade⟩
    · exact .inl (findSource_eq_file_iff.mp unfound)
    · exact .inr ⟨sourceThere_iff.mpr ⟨resolved, found⟩, unmade⟩
  · rw [scan_result_eq, sourceThere_iff]
    rintro (unfit | ⟨⟨resolved, found⟩, unmade⟩)
    · rw [findSource_eq_file_iff.mpr unfit]
      rfl
    · rw [found, unmade]
      rfl

/-- A scan without a program that no error of the operating system broke off is reported. -/
theorem exists_scan_eq_scan_iff :
    (∃ error, (scan environment outcome tree source).result = .error (.scan error)) ↔
      (¬ SourceThere tree source ∧ ∀ error, ¬ SourceUnfit tree source error) ∨
        SourceThere tree source ∧ ScratchReady environment tree ∧
          ∀ program, ¬ Delivers outcome program := by
  have others : (∃ error, (scan environment outcome tree source).result = .error (.scan error)) ↔
      (∀ program, (scan environment outcome tree source).result ≠ .ok program) ∧
        ∀ error, (scan environment outcome tree source).result ≠ .error (.file error) := by
    rcases (scan environment outcome tree source).result with (error | error) | program <;> simp
  rw [others]
  simp only [ne_eq, scan_eq_ok_iff, scan_eq_file_iff, not_or]
  by_cases there : SourceThere tree source
  · by_cases ready : ScratchReady environment tree
    · have made : (tree.ensureDirectories environment.scratchParent).2 = .ok () := ready
      simp [there, ready, there.not_unfit, made]
    · obtain ⟨error, unmade⟩ := not_scratchReady_iff.mp ready
      simp [there, ready, there.not_unfit, unmade]
  · simp [there]

/-! ## Processes and trees -/

theorem runHelper_run (tree : FileTree) (parent : Location) :
    (runHelper environment outcome source tree parent).run =
      some ⟨[environment.command, "run", ".", "--dir", source.text],
        environment.scratchParent.child (tree.freshPart scratchStem),
        helperFiles environment⟩ := by
  unfold runHelper
  simp only
  split <;> rfl

theorem isSome_run_iff :
    (scan environment outcome tree source).run.isSome = true ↔
      SourceThere tree source ∧ ScratchReady environment tree := by
  rw [sourceThere_iff, ScratchReady]
  rcases scan_cases environment outcome tree source with
    ⟨failure, unfound, scanned⟩ | ⟨resolved, error, found, unprepared, scanned⟩ |
      ⟨resolved, parent, found, prepared, scanned⟩
  · simp [scanned, unfound]
  · simp [scanned, unprepared]
  · simp [scanned, runHelper_run, found, prepared]

theorem scan_tree_of_not_sourceThere (absent : ¬ SourceThere tree source) :
    (scan environment outcome tree source).tree = tree := by
  rw [sourceThere_iff] at absent
  rcases scan_cases environment outcome tree source with
    ⟨failure, -, scanned⟩ | ⟨resolved, error, found, -, -⟩ | ⟨resolved, parent, found, -, -⟩
  · rw [scanned]
  · exact absurd ⟨resolved, found⟩ absent
  · exact absurd ⟨resolved, found⟩ absent

/-- A scan that has a source leaves the tree as the place for scratch directories was prepared. -/
theorem entry?_scan (there : SourceThere tree source) (location : Location) :
    FileTree.entry? (scan environment outcome tree source).tree location =
      FileTree.entry? (tree.ensureDirectories environment.scratchParent).1 location := by
  obtain ⟨resolved, found⟩ := sourceThere_iff.mp there
  rcases scan_cases environment outcome tree source with
    ⟨failure, unfound, -⟩ | ⟨_, error, -, -, scanned⟩ | ⟨_, parent, -, -, scanned⟩
  · rw [found] at unfound
    cases unfound
  · rw [scanned]
  · rw [scanned]
    exact entry?_runHelper _ parent location

/-- The directory that a process was started in is not there when the scan ends. -/
theorem lookup_directory_of_run {run : Run}
    (started : (scan environment outcome tree source).run = some run) :
    (scan environment outcome tree source).tree.lookup run.directory = none := by
  rcases scan_cases environment outcome tree source with
    ⟨failure, -, scanned⟩ | ⟨resolved, error, -, -, scanned⟩ | ⟨resolved, parent, -, -, scanned⟩
  · rw [scanned] at started
    cases started
  · rw [scanned] at started
    cases started
  · rw [scanned] at started ⊢
    rw [runHelper_run, Option.some.injEq] at started
    subst started
    exact FileTree.lookup_child_freshPart (by decide) (entry?_runHelper _ parent) _

/-! ## Accounts -/

/--
What the report of a scan says, told by the source, the place for scratch directories and the
outcome of the process.
-/
structure Accounts (environment : Environment) (outcome : ProcessOutcome) (tree : FileTree)
    (source : Path) (report : Report) : Prop where
  /-- There is a program exactly when all stages succeed. -/
  program (program : Program) :
    report.result = .ok program ↔
      SourceThere tree source ∧ ScratchReady environment tree ∧ Delivers outcome program
  /-- An error of the operating system is met at the source or at the place. -/
  brokenOff (error : FileError) :
    report.result = .error (.file error) ↔
      SourceUnfit tree source error ∨
        SourceThere tree source ∧
          (tree.ensureDirectories environment.scratchParent).2 = .error error
  /-- Everything else is reported as an error of the scan. -/
  reported :
    (∃ error, report.result = .error (.scan error)) ↔
      (¬ SourceThere tree source ∧ ∀ error, ¬ SourceUnfit tree source error) ∨
        SourceThere tree source ∧ ScratchReady environment tree ∧
          ∀ program, ¬ Delivers outcome program
  /-- The process is started when there is a source to scan and a place to start it in. -/
  started : report.run.isSome = true ↔ SourceThere tree source ∧ ScratchReady environment tree
  /-- The directory that the process was started in is gone. -/
  cleared (run : Run) : report.run = some run → report.tree.lookup run.directory = none
  /-- Without a source nothing is touched. -/
  untouched : ¬ SourceThere tree source → report.tree = tree
  /-- With a source the tree is the one that the place was prepared in. -/
  restored (location : Location) :
    SourceThere tree source →
      report.tree.entry? location =
        FileTree.entry? (tree.ensureDirectories environment.scratchParent).1 location
  /-- No file is changed. -/
  files : tree.SameFiles report.tree

/-- A name that is one byte longer than names may be. -/
def overlongSource : String := String.ofList (List.replicate 256 'x')

/-- A working directory, and a directory for scratch directories. -/
def workTree : FileTree := ⟨["work"], [(["work"], .directory), (["tmp"], .directory)]⟩

/-- An environment without settings. -/
def plainEnvironment : Environment := ⟨none, none, ⟨.root, ["tmp"]⟩, ""⟩

end FuncAdapter.Scan
