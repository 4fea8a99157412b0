import FuncAdapter.Proofs.CommandLine.Snapshots

/-!
# How runs end

A run that the arguments ask for ends in one of three ways.  It prints declarations and nothing
else; or it reports the error that a scan, a snapshot or a lookup met, prints nothing and ends with
status one; or it breaks off and prints nothing.

A run breaks off for an empty name, after it has its program and has saved it; because the directory
for scratch directories cannot be created or the snapshot cannot be written; and because the path of
the source is nothing that the operating system takes, which a scan does not report.  No other cause
is left: names can always be made distinct, and declarations from a program that was read can always
be written.

A name that is too long shows the last cause.  A scan of a source with such a name breaks off, while
the same source is reported when it is to be read as a snapshot.
-/

namespace FuncAdapter

/-! ## Generation -/

theorem Target.resolve_eq_emptyName_iff {query : Query} {program : Program} :
    Target.resolve query program = .error .emptyName ↔ query.name = "" := by
  constructor
  · intro refused
    by_contra named
    rcases Target.alike_resolve named program with ⟨target, resolves⟩ | ⟨refusal, framed, refuses⟩
    · have resolved : Target.resolve query program = .ok target := resolves query.location
      rw [resolved] at refused
      cases refused
    · have other : Target.resolve query program = .error (refusal query) := refuses query.location
      rw [other] at refused
      exact framed.1 query (Except.error.inj refused)
  · intro unnamed
    rw [Target.resolve, unnamed]
    rfl

theorem Adapter.generate_of_resolve_error {query : Query} {program : Program} {refusal : Refusal}
    (refused : Target.resolve query program = .error refusal) :
    Adapter.generate query program = .error (.refused refusal) := by
  rw [Adapter.generate, refused]
  rfl

/-- What is generated from a well-formed program can be written. -/
theorem Adapter.exists_generate_of_resolve {query : Query} {program : Program} {target : Target}
    (wellFormed : program.WellFormed) (resolved : Target.resolve query program = .ok target) :
    ∃ decls text, Adapter.generate query program = .ok decls ∧ render decls = .ok text := by
  obtain ⟨method, text, declared, written⟩ :=
    Adapter.exists_render_eq_ok (wellFormed.foreign?_target resolved)
  exact ⟨_, text, Adapter.generate_of_resolve resolved declared, written⟩

namespace CommandLine

variable {surroundings : Surroundings} {invocation : Invocation}

/-! ## Causes -/

/-- A run has its program and has written the snapshot that was asked for, which gives this tree. -/
def Ready (surroundings : Surroundings) (invocation : Invocation) (program : Program)
    (tree : FileTree) : Prop :=
  (obtain surroundings invocation).result = .ok program ∧
    saveIfAsked invocation (obtain surroundings invocation).tree program = (tree, .ok ())

/-- The errors that a run meets and reports. -/
inductive Meets (surroundings : Surroundings) (invocation : Invocation) : Complaint → Prop
  | scan {error : ScanError}
      (scans : invocation.snapshot = false)
      (failed : (scanOf surroundings invocation.source).result = .error (.scan error)) :
      Meets surroundings invocation (.scan error)
  | snapshot {error : Snapshot.ReadError}
      (reads : invocation.snapshot = true)
      (failed : Snapshot.read surroundings.tree (Path.ofString invocation.source) = .error error)
      (reached : error ≠ .nullByte) :
      Meets surroundings invocation (.snapshot error)
  | refusal {program : Program} {tree : FileTree} {refusal : Refusal}
      (ready : Ready surroundings invocation program tree)
      (refused : Target.resolve invocation.query program = .error refusal)
      (named : refusal ≠ .emptyName) :
      Meets surroundings invocation (.refusal refusal)

/-- What breaks a run off. -/
inductive Breaks (surroundings : Surroundings) (invocation : Invocation) : Breakdown → Prop
  | emptyName {program : Program} {tree : FileTree}
      (ready : Ready surroundings invocation program tree)
      (unnamed : invocation.interface = "") :
      Breaks surroundings invocation .emptyName
  /-- The place for scratch directories cannot be created. -/
  | scratch {resolved : Path} {error : FileError}
      (scans : invocation.snapshot = false)
      (found : Scan.findSource surroundings.tree (Path.ofString invocation.source) = .ok resolved)
      (failed : (surroundings.tree.ensureDirectories
        surroundings.environment.scratchParent).2 = .error error) :
      Breaks surroundings invocation (.file error)
  /-- The snapshot that was asked for cannot be written. -/
  | save {program : Program} {path : String} {error : FileError}
      (obtained : (obtain surroundings invocation).result = .ok program)
      (asked : Environment.setting invocation.savePath = some path)
      (failed : (Snapshot.save (obtain surroundings invocation).tree (Path.ofString path)
        program).2 = .error error) :
      Breaks surroundings invocation (.file error)
  /-- A directory cannot be looked for under the path of the source. -/
  | source {error : FileError}
      (scans : invocation.snapshot = false)
      (failed : Scan.findSource surroundings.tree (Path.ofString invocation.source) =
        .error (.file error))
      (unfit : error = .nullByte ∨ ∃ path, error = .met .nameTooLong path) :
      Breaks surroundings invocation (.file error)
  /-- A snapshot cannot be looked for under the path of the source. -/
  | snapshot
      (reads : invocation.snapshot = true)
      (unfit : (Path.ofString invocation.source).holdsNull = true) :
      Breaks surroundings invocation (.file .nullByte)

/-- A failure with the cause that it stands for. -/
def Failure.Caused (surroundings : Surroundings) (invocation : Invocation) : Failure → Prop
  | .reported complaint => Meets surroundings invocation complaint
  | .brokeOff breakdown => Breaks surroundings invocation breakdown

theorem caused_of_obtain {failure : Failure}
    (failed : (obtain surroundings invocation).result = .error failure) :
    failure.Caused surroundings invocation := by
  cases reads : invocation.snapshot with
  | true =>
      rw [obtain, if_pos reads] at failed
      obtain ⟨error, unread, rfl⟩ := mapError_eq_error_iff.mp failed
      cases error with
      | nullByte => exact Breaks.snapshot reads (Snapshot.holdsNull_of_read unread)
      | _ => exact Meets.snapshot reads unread nofun
  | false =>
      have scans : ¬ invocation.snapshot = true := by simp [reads]
      rw [obtain, if_neg scans] at failed
      obtain ⟨cause, unscanned, rfl⟩ := mapError_eq_error_iff.mp failed
      cases cause with
      | scan error => exact Meets.scan reads unscanned
      | file error =>
          rcases Scan.cause_of_scan_file_error unscanned with unfound | ⟨resolved, found, unmade⟩
          · exact Breaks.source reads unfound (Scan.unfit_of_findSource unfound)
          · exact Breaks.scratch reads found unmade

theorem wellFormed_of_obtain {program : Program}
    (obtained : (obtain surroundings invocation).result = .ok program) :
    program.WellFormed := by
  rw [obtain] at obtained
  split at obtained
  · exact Snapshot.wellFormed_of_read (mapError_eq_ok_iff.mp obtained)
  · obtain ⟨-, -, resolved, -, interpreted⟩ :=
      Scan.of_scan_eq_ok (mapError_eq_ok_iff.mp obtained)
    obtain ⟨document, read⟩ := Scan.exists_ofDocument_of_interpret interpreted
    exact Program.wellFormed_of_ofDocument read

/-! ## Stages of a run -/

/-- A run stops without a program, or stops at the snapshot it is to write, or generates. -/
theorem perform_cases (surroundings : Surroundings) (invocation : Invocation) :
    (∃ failure log,
      (obtain surroundings invocation).result = .error failure ∧
        perform surroundings invocation =
          ⟨.error failure, log, (obtain surroundings invocation).tree⟩) ∨
    (∃ program path error log,
      (obtain surroundings invocation).result = .ok program ∧
        Environment.setting invocation.savePath = some path ∧
        (Snapshot.save (obtain surroundings invocation).tree (Path.ofString path) program).2 =
          .error error ∧
        perform surroundings invocation =
          ⟨.error (.brokeOff (.file error)), log,
            (Snapshot.save (obtain surroundings invocation).tree (Path.ofString path)
              program).1⟩) ∨
    ∃ program tree log,
      Ready surroundings invocation program tree ∧
        perform surroundings invocation = generating invocation.query program log tree := by
  cases obtained : (obtain surroundings invocation).result with
  | error failure => exact .inl ⟨failure, _, rfl, by rw [perform, obtained]⟩
  | ok program =>
      rcases saves : saveIfAsked invocation (obtain surroundings invocation).tree program with
        ⟨tree, failure | ⟨⟩⟩
      · right; left
        have performed : perform surroundings invocation =
            ⟨.error failure, (obtain surroundings invocation).log, tree⟩ := by
          simp only [perform, obtained, saves]
        rw [saveIfAsked] at saves
        split at saves
        · cases saves
        · next path asked =>
            obtain ⟨rfl, failed⟩ := Prod.mk.inj saves
            obtain ⟨error, unsaved, rfl⟩ := mapError_eq_error_iff.mp failed
            exact ⟨program, path, error, _, rfl, asked, unsaved, performed⟩
      · right; right
        obtain ⟨log, performed⟩ := perform_eq_generating obtained saves
        exact ⟨program, tree, log, ⟨obtained, saves⟩, performed⟩

/-- A run that is carried out has declarations that can be written, or fails for a cause. -/
theorem perform_spec (surroundings : Surroundings) (invocation : Invocation) :
    (∃ program decls text log tree,
      Ready surroundings invocation program tree ∧
        Adapter.generate invocation.query program = .ok decls ∧ render decls = .ok text ∧
        perform surroundings invocation = ⟨.ok decls, log, tree⟩) ∨
    ∃ failure log tree,
      failure.Caused surroundings invocation ∧
        perform surroundings invocation = ⟨.error failure, log, tree⟩ := by
  rcases perform_cases surroundings invocation with
    ⟨failure, log, failed, performed⟩ |
      ⟨program, path, error, log, obtained, asked, failed, performed⟩ |
      ⟨program, tree, log, ready, performed⟩
  · exact .inr ⟨failure, log, _, caused_of_obtain failed, performed⟩
  · exact .inr
      ⟨.brokeOff (.file error), log, _, Breaks.save obtained asked failed, performed⟩
  · cases resolved : Target.resolve invocation.query program with
    | ok target =>
        obtain ⟨decls, text, generated, written⟩ :=
          Adapter.exists_generate_of_resolve (wellFormed_of_obtain ready.1) resolved
        refine .inl ⟨program, decls, text, log, tree, ready, generated, written, ?_⟩
        rw [performed, generating, generated]
        rfl
    | error refusal =>
        rw [generating, Adapter.generate_of_resolve_error resolved] at performed
        refine .inr ⟨ofAdapterFailure (.refused refusal), log, tree, ?_, performed⟩
        by_cases unnamed : refusal = .emptyName
        · subst unnamed
          exact Breaks.emptyName ready (Target.resolve_eq_emptyName_iff.mp resolved)
        · rw [ofAdapterFailure_refused unnamed]
          exact Meets.refusal ready resolved unnamed

/-! ## Endings -/

/-- The ways in which a run ends. -/
inductive Way where
  | prints
  | reports
  | breaksOff
  deriving DecidableEq, Repr

/-- What a run leaves behind when it ends in one of the ways. -/
def EndsBy (surroundings : Surroundings) (invocation : Invocation) (outcome : Outcome) :
    Way → Prop
  | .prints =>
      ∃ program decls,
        Ready surroundings invocation program outcome.tree ∧
          Adapter.generate invocation.query program = .ok decls ∧
          render decls = .ok outcome.output ∧ outcome.ending = .exit 0
  | .reports =>
      ∃ complaint log,
        Meets surroundings invocation complaint ∧ outcome.ending = .exit 1 ∧
          outcome.output = "" ∧ outcome.errors = log ++ "error: " ++ complaint.message ++ "\n"
  | .breaksOff =>
      ∃ breakdown,
        Breaks surroundings invocation breakdown ∧ outcome.ending = .brokeOff breakdown ∧
          outcome.output = ""

/-- The way that an ending belongs to. -/
def Ending.way : Ending → Way
  | .exit 0 => .prints
  | .exit _ => .reports
  | .brokeOff _ => .breaksOff

theorem EndsBy.way_eq {outcome : Outcome} {way : Way}
    (ends : EndsBy surroundings invocation outcome way) :
    outcome.ending.way = way := by
  cases way with
  | prints =>
      obtain ⟨program, decls, -, -, -, ending⟩ := ends
      rw [ending]
      rfl
  | reports =>
      obtain ⟨complaint, log, -, ending, -⟩ := ends
      rw [ending]
      rfl
  | breaksOff =>
      obtain ⟨breakdown, -, ending, -⟩ := ends
      rw [ending]
      rfl

theorem exists_endsBy_conclude (surroundings : Surroundings) (invocation : Invocation) :
    ∃ way, EndsBy surroundings invocation
      (conclude invocation.verbose (perform surroundings invocation)) way := by
  rcases perform_spec surroundings invocation with
    ⟨program, decls, text, log, tree, ready, generated, written, performed⟩ |
      ⟨failure, log, tree, caused, performed⟩
  · have concluded : conclude invocation.verbose ⟨.ok decls, log, tree⟩ =
        ⟨.exit 0, text, if invocation.verbose then logText log else "", tree⟩ := by
      simp only [conclude, written]
    refine ⟨.prints, program, decls, ?_⟩
    rw [performed, concluded]
    exact ⟨ready, generated, written, rfl⟩
  · cases failure with
    | reported complaint =>
        refine ⟨.reports, complaint, if invocation.verbose then logText log else "", caused, ?_⟩
        rw [performed]
        exact ⟨rfl, rfl, rfl⟩
    | brokeOff breakdown =>
        refine ⟨.breaksOff, breakdown, caused, ?_⟩
        rw [performed]
        exact ⟨rfl, rfl⟩

/-- An argument that is a path of one part and longer than names may be. -/
structure Overlong (name : String) : Prop extends OverlongName name where
  undashed : Undashed name

theorem overlong_replicate {count : Nat} (many : nameLimit < count) :
    Overlong (String.ofList (List.replicate count 'x')) where
  toOverlongName := overlongName_replicate many
  undashed := by
    intro dashed
    rw [String.toList_ofList] at dashed
    exact absurd (List.eq_of_mem_replicate (List.mem_of_head? dashed)) (by decide)

section Overlong

variable {name : String} (overlong : Overlong name)
include overlong

theorem run_scan_of_overlong {interface : String} (plain : Undashed interface)
    (housed : Housed surroundings.tree) :
    (run surroundings [name, interface]).ending =
      .brokeOff (.file
        (.met .nameTooLong ⟨.root, surroundings.tree.workingDirectory ++ [name]⟩)) := by
  rw [run, parse_source overlong.undashed plain]
  simp only [perform, obtain, Scan.scan,
    Scan.findSource_of_overlong overlong.toOverlongName housed]
  rfl

theorem run_snapshot_of_overlong {interface : String} (plain : Undashed interface)
    (housed : Housed surroundings.tree) :
    (run surroundings [name, interface, "--snapshot"]).ending = .exit 1 := by
  rw [run, parse_snapshot overlong.undashed plain]
  simp only [perform, obtain, Snapshot.read, overlong.readFile housed]
  rfl

end Overlong

/-- A name that is one byte longer than names may be. -/
def overlongName : String := String.ofList (List.replicate 256 'x')

end CommandLine

end FuncAdapter
