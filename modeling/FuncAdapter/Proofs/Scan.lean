import FuncAdapter.Proofs.FileSystem.Contents
import FuncAdapter.Proofs.Syntax.RoundTrip
import FuncAdapter.Scan

/-!
# What a scan leaves behind

A scan works in a scratch directory under a name that is not in use and removes it again, so that
everything in the tree is as it was before the process started.  What it finds depends on the tree
only through the source directory and the place for scratch directories; while both stay, scanning
again with the same outcome of the process gives the same program.
-/

namespace FuncAdapter.Scan

variable {environment : Environment} {outcome : ProcessOutcome} {source : Path}

/-! ## The scratch directory -/

theorem entry?_writeFiles {location other : Location} (outside : ¬ location <+: other)
    (tree : FileTree) (files : List (String × String)) :
    FileTree.entry? (writeFiles tree location files) other = tree.entry? other := by
  induction files generalizing tree with
  | nil => rfl
  | cons file files ih =>
      have different : location ++ [file.1] ≠ other := by
        rintro rfl
        exact outside (List.prefix_append location [file.1])
      rw [writeFiles, List.foldl_cons]
      refine (ih _).trans ?_
      rw [FileTree.entry?_put, if_neg fun here => different here.2]

theorem workingDirectory_writeFiles (location : Location) (tree : FileTree)
    (files : List (String × String)) :
    (writeFiles tree location files).workingDirectory = tree.workingDirectory := by
  induction files generalizing tree with
  | nil => rfl
  | cons file files ih => exact ih _

theorem runHelper_tree (tree : FileTree) (parent : Location) :
    (runHelper environment outcome source tree parent).tree =
      (writeFiles (tree.put (parent ++ [tree.freshPart scratchStem]) .directory)
        (parent ++ [tree.freshPart scratchStem]) (helperFiles environment)).remove
          (parent ++ [tree.freshPart scratchStem]) := by
  unfold runHelper
  simp only
  split <;> rfl

theorem runHelper_result (tree : FileTree) (parent : Location) :
    (runHelper environment outcome source tree parent).result =
      (interpret environment.command source outcome).mapError Failure.scan := by
  unfold runHelper
  simp only
  split <;> simp [*]

/-- Once the scratch directory is removed, everything is as it was. -/
theorem entry?_runHelper (tree : FileTree) (parent location : Location) :
    FileTree.entry? (runHelper environment outcome source tree parent).tree location =
      tree.entry? location := by
  rw [runHelper_tree, FileTree.entry?_remove _ _ _ (by simp)]
  split
  · next inside => exact (FileTree.entry?_below_freshPart inside).symm
  · next outside =>
      rw [entry?_writeFiles outside, FileTree.entry?_put, if_neg]
      rintro ⟨-, rfl⟩
      exact outside (List.prefix_refl _)

theorem keepsDirectories_runHelper (tree : FileTree) (parent : Location) :
    tree.KeepsDirectories (runHelper environment outcome source tree parent).tree where
  workingDirectory := by
    rw [runHelper_tree]
    exact workingDirectory_writeFiles _ _ _
  directory := by
    intro location found
    rw [entry?_runHelper, found]

/-- What the process does leaves no trace in the tree. -/
theorem scan_tree (tree : FileTree) (other : ProcessOutcome) :
    (scan environment outcome tree source).tree = (scan environment other tree source).tree := by
  unfold scan
  split
  · rfl
  · split
    · rfl
    · split
      · rfl
      · rw [runHelper_tree, runHelper_tree]

/-! ## Results -/

/-- A scan lacks its source, or lacks a place for scratch directories, or runs the helper. -/
theorem scan_cases (environment : Environment) (outcome : ProcessOutcome) (tree : FileTree)
    (source : Path) :
    (∃ failure, findSource tree source = .error failure ∧
      scan environment outcome tree source = ⟨.error failure, none, [], tree⟩) ∨
    (∃ resolved error, findSource tree source = .ok resolved ∧
      (tree.ensureDirectories environment.scratchParent).2 = .error error ∧
      scan environment outcome tree source =
        ⟨.error (.file error), none, [], (tree.ensureDirectories environment.scratchParent).1⟩) ∨
    ∃ resolved parent, findSource tree source = .ok resolved ∧
      (tree.ensureDirectories environment.scratchParent).2 = .ok () ∧
      scan environment outcome tree source =
        runHelper environment outcome resolved
          (tree.ensureDirectories environment.scratchParent).1 parent := by
  have ensures := FileTree.ensures_ensureDirectories tree environment.scratchParent
  cases found : findSource tree source with
  | error failure => exact .inl ⟨failure, rfl, by simp only [scan, found]⟩
  | ok resolved =>
      right
      rcases prepares : tree.ensureDirectories environment.scratchParent with
        ⟨prepared, error | ⟨⟩⟩
      · exact .inl ⟨resolved, error, rfl, rfl, by simp only [scan, found, prepares]⟩
      · rw [prepares] at ensures
        obtain ⟨parent, located, -⟩ := FileTree.isDirectory_iff.mp (ensures.2 rfl)
        exact .inr ⟨resolved, parent, rfl, rfl, by simp only [scan, found, prepares, located]⟩

/-- A scan changes no file, whatever becomes of it. -/
theorem sameFiles_scan (tree : FileTree) :
    tree.SameFiles (scan environment outcome tree source).tree := by
  have prepares := tree.sameFiles_ensureDirectories environment.scratchParent
  rcases scan_cases environment outcome tree source with
    ⟨failure, -, scanned⟩ | ⟨resolved, error, -, -, scanned⟩ | ⟨resolved, parent, -, -, scanned⟩
  · rw [scanned]
    exact .refl tree
  · rw [scanned]
    exact prepares
  · rw [scanned]
    refine prepares.trans ?_
    intro location
    exact FileTree.content?_of_entry?_eq (entry?_runHelper _ parent location)

/-- A process that was found, ended with status zero and wrote the document of a program. -/
def Delivers (outcome : ProcessOutcome) (program : Program) : Prop :=
  ∃ output errors document,
    outcome = .finished 0 output errors ∧ Json.parse output = .ok document ∧
      Program.ofDocument document = .ok program

theorem readOutput_eq_ok_iff {output : String} {program : Program} :
    readOutput output = .ok program ↔
      ∃ document, Json.parse output = .ok document ∧ Program.ofDocument document = .ok program := by
  rw [readOutput]
  cases Json.parse output with
  | error fault => simp
  | ok document => simp [mapError_eq_ok_iff]

theorem interpret_eq_ok_iff {command : String} {program : Program} :
    interpret command source outcome = .ok program ↔ Delivers outcome program := by
  cases outcome with
  | missing =>
      constructor
      · intro succeeds
        cases succeeds
      · rintro ⟨output, errors, document, found, -⟩
        cases found
  | finished status output errors =>
      rw [interpret]
      split
      · next zero =>
          subst zero
          rw [readOutput_eq_ok_iff]
          constructor
          · rintro ⟨document, parsed, read⟩
            exact ⟨output, errors, document, rfl, parsed, read⟩
          · rintro ⟨_, _, document, ⟨⟩, parsed, read⟩
            exact ⟨document, parsed, read⟩
      · next failed =>
          constructor
          · intro succeeds
            cases succeeds
          · rintro ⟨_, _, document, ⟨⟩, -⟩
            exact absurd rfl failed

/-- A scan finds the source, then makes a place for scratch directories, then asks the process. -/
theorem scan_result_eq (tree : FileTree) :
    (scan environment outcome tree source).result =
      findSource tree source >>= fun resolved =>
        (tree.ensureDirectories environment.scratchParent).2.mapError Failure.file >>= fun _ =>
          (interpret environment.command resolved outcome).mapError Failure.scan := by
  rcases scan_cases environment outcome tree source with
    ⟨failure, unfound, scanned⟩ | ⟨resolved, error, found, unprepared, scanned⟩ |
      ⟨resolved, parent, found, prepared, scanned⟩
  · rw [scanned, unfound]
    rfl
  · rw [scanned, found, unprepared]
    rfl
  · rw [scanned, found, prepared, runHelper_result]
    rfl

/-- An error of a file breaks a scan off at the source or at the place for scratch directories. -/
theorem cause_of_scan_file_error {tree : FileTree} {error : FileError}
    (failed : (scan environment outcome tree source).result = .error (.file error)) :
    findSource tree source = .error (.file error) ∨
      ∃ resolved, findSource tree source = .ok resolved ∧
        (tree.ensureDirectories environment.scratchParent).2 = .error error := by
  rw [scan_result_eq, bind_eq_error_iff] at failed
  rcases failed with unfound | ⟨resolved, found, failed⟩
  · exact .inl unfound
  · rw [bind_eq_error_iff] at failed
    rcases failed with unprepared | ⟨-, -, failed⟩
    · obtain ⟨problem, unprepared, same⟩ := mapError_eq_error_iff.mp unprepared
      cases same
      exact .inr ⟨resolved, found, unprepared⟩
    · obtain ⟨problem, -, same⟩ := mapError_eq_error_iff.mp failed
      cases same

/-- The operating system does not take the path of a source, and meets an error with it. -/
def SourceUnfit (tree : FileTree) (source : Path) (error : FileError) : Prop :=
  (error = .nullByte ∧ source.holdsNull = true) ∨
    ∃ resolved, tree.resolve source = .ok resolved ∧ tree.locate resolved = .error error ∧
      (error = .nullByte ∨ error = .met .nameTooLong resolved)

theorem findSource_eq_file_iff {tree : FileTree} {error : FileError} :
    findSource tree source = .error (.file error) ↔ SourceUnfit tree source error := by
  rw [findSource, bind_eq_error_iff, SourceUnfit, ← FileTree.resolve_eq_error_iff]
  simp only [mapError_eq_error_iff, mapError_eq_ok_iff, Failure.file.injEq, exists_eq_right]
  refine or_congr_right (exists_congr fun resolved => and_congr_right fun _ => ?_)
  rw [← FileTree.probeDirectory_eq_error_iff, bind_eq_error_iff]
  simp only [mapError_eq_error_iff, mapError_eq_ok_iff, Failure.file.injEq, exists_eq_right]
  constructor
  · rintro (unprobed | ⟨there, -, failed⟩)
    · exact unprobed
    · split at failed <;> cases failed
  · exact .inl

/-- A source that cannot be looked at holds a null byte, or a name or all of it is too long. -/
theorem unfit_of_findSource {tree : FileTree} {error : FileError}
    (failed : findSource tree source = .error (.file error)) :
    error = .nullByte ∨ ∃ path, error = .met .nameTooLong path := by
  rcases findSource_eq_file_iff.mp failed with ⟨null, -⟩ | ⟨resolved, -, -, null | long⟩
  · exact .inl null
  · exact .inl null
  · exact .inr ⟨resolved, long⟩

/-- A source with a name that is too long cannot be looked at. -/
theorem findSource_of_overlong {name : String} (overlong : OverlongName name) {tree : FileTree}
    (housed : Housed tree) :
    findSource tree (Path.ofString name) =
      .error (.file (.met .nameTooLong ⟨.root, tree.workingDirectory ++ [name]⟩)) := by
  obtain ⟨fit, followed⟩ := FileTree.of_locate_eq_ok housed.located
  have resolved : tree.resolve (Path.ofString name) =
      .ok ⟨.root, tree.workingDirectory ++ [name]⟩ := by
    have down : name ≠ ".." := overlong.ne (by decide)
    rw [overlong.ofString]
    simp [FileTree.resolve, Path.holdsNull, overlong.noNull, FileTree.start, FileTree.step, down]
  have located : tree.locate ⟨.root, tree.workingDirectory ++ [name]⟩ =
      .error (.met .nameTooLong ⟨.root, tree.workingDirectory ++ [name]⟩) := by
    apply FileTree.locate_of_nameTooLong
    · rw [Path.holdsNull] at fit ⊢
      rw [List.any_append, fit]
      simp [overlong.noNull]
    · rw [FileTree.follow_append, followed]
      exact FileTree.follow_of_overlong housed.directory overlong.long
  rw [findSource, resolved]
  change (tree.probeDirectory _).mapError Failure.file >>= _ = _
  rw [FileTree.probeDirectory, located]
  rfl

/-! ## Scanning again -/

theorem findSource_eq_ok_iff {tree : FileTree} {resolved : Path} :
    findSource tree source = .ok resolved ↔
      tree.resolve source = .ok resolved ∧ tree.isDirectory resolved = true := by
  rw [← FileTree.probeDirectory_eq_true_iff]
  constructor
  · intro found
    obtain ⟨path, resolves, found⟩ := exists_of_bind_eq_ok found
    obtain ⟨there, probed, found⟩ := exists_of_bind_eq_ok found
    rw [mapError_eq_ok_iff] at resolves probed
    split at found
    · next isThere =>
        cases found
        rw [isThere] at probed
        exact ⟨resolves, probed⟩
    · cases found
  · rintro ⟨resolves, probed⟩
    simp [findSource, resolves, probed]

theorem findSource_of_keepsDirectories {old new : FileTree} {resolved : Path}
    (keeps : old.KeepsDirectories new) (found : findSource old source = .ok resolved) :
    findSource new source = .ok resolved := by
  rw [findSource_eq_ok_iff] at found ⊢
  exact ⟨by rw [keeps.resolve, found.1], keeps.isDirectory found.2⟩

/-- The output of a process that was taken as a program is the document of one. -/
theorem exists_ofDocument_of_interpret {command : String} {program : Program}
    (succeeds : interpret command source outcome = .ok program) :
    ∃ document, Program.ofDocument document = .ok program := by
  obtain ⟨-, -, document, -, -, read⟩ := interpret_eq_ok_iff.mp succeeds
  exact ⟨document, read⟩

/-- With the source and the place for scratch directories there, the process decides. -/
theorem scan_result {tree : FileTree} {resolved : Path}
    (found : findSource tree source = .ok resolved)
    (place : tree.isDirectory environment.scratchParent = true) :
    (scan environment outcome tree source).result =
      (interpret environment.command resolved outcome).mapError Failure.scan := by
  rw [scan_result_eq, found, FileTree.ensureDirectories_of_isDirectory place]
  rfl

/-- What a scan that succeeds has found, and what it leaves in place. -/
theorem of_scan_eq_ok {tree : FileTree} {program : Program}
    (succeeds : (scan environment outcome tree source).result = .ok program) :
    tree.KeepsDirectories (scan environment outcome tree source).tree ∧
      (scan environment outcome tree source).tree.isDirectory environment.scratchParent = true ∧
      ∃ resolved, findSource tree source = .ok resolved ∧
        interpret environment.command resolved outcome = .ok program := by
  obtain ⟨keeps, there⟩ := FileTree.ensures_ensureDirectories tree environment.scratchParent
  rcases scan_cases environment outcome tree source with
    ⟨failure, -, scanned⟩ | ⟨resolved, error, -, -, scanned⟩ |
      ⟨resolved, parent, found, prepared, scanned⟩
  · rw [scanned] at succeeds
    cases succeeds
  · rw [scanned] at succeeds
    cases succeeds
  · rw [scanned] at succeeds ⊢
    rw [runHelper_result, mapError_eq_ok_iff] at succeeds
    have kept : (tree.ensureDirectories environment.scratchParent).1.KeepsDirectories
        (runHelper environment outcome resolved
          (tree.ensureDirectories environment.scratchParent).1 parent).tree :=
      keepsDirectories_runHelper _ parent
    exact ⟨keeps.trans kept, kept.isDirectory (there prepared), resolved, found, succeeds⟩

/-- A scan that succeeded gives the same program again while all directories stay. -/
theorem scan_again {tree later : FileTree} {program : Program}
    (succeeds : (scan environment outcome tree source).result = .ok program)
    (keeps : (scan environment outcome tree source).tree.KeepsDirectories later) :
    (scan environment outcome later source).result = .ok program := by
  obtain ⟨kept, place, resolved, found, interpreted⟩ := of_scan_eq_ok succeeds
  have stillFound := findSource_of_keepsDirectories (kept.trans keeps) found
  rw [scan_result stillFound (keeps.isDirectory place), mapError_eq_ok_iff]
  exact interpreted

end FuncAdapter.Scan
