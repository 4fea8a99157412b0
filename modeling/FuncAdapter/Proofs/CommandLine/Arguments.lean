import FuncAdapter.CommandLine.Arguments
import FuncAdapter.Proofs.Syntax.RoundTrip

/-!
# What arguments ask for

An argument that does not start with a dash is taken as it is.  A command line that asks for a
snapshot to be saved can only be one whose other two arguments were taken as the source and the
interface: no option, and no end marker, fits in the place of the interface.
-/

namespace FuncAdapter.CommandLine

/-- An argument that cannot be taken for an option. -/
def Undashed (argument : String) : Prop :=
  argument.toList.head? ≠ some '-'

instance (argument : String) : Decidable (Undashed argument) :=
  inferInstanceAs (Decidable (argument.toList.head? ≠ some '-'))

theorem Undashed.ne_endMarker {argument : String} (undashed : Undashed argument) :
    argument ≠ endMarker := by
  rintro rfl
  exact undashed rfl

theorem Undashed.classify {argument : String} (undashed : Undashed argument) :
    classify argument = .ok (.positional argument) := by
  rw [CommandLine.classify]
  split
  · next dashed =>
      rw [Undashed, dashed] at undashed
      exact absurd rfl undashed
  · rfl

theorem splitMarker_of_notMem {arguments : List String} (unmarked : endMarker ∉ arguments) :
    splitMarker arguments = (arguments, none) := by
  induction arguments with
  | nil => rfl
  | cons argument arguments ih =>
      rw [List.mem_cons, not_or] at unmarked
      rw [splitMarker, if_neg (Ne.symm unmarked.1), ih unmarked.2]

/-- Without an end marker, all arguments are classified and then take effect. -/
theorem parse_of_notMem {arguments : List String} (unmarked : endMarker ∉ arguments) :
    parse arguments =
      (classifyAll arguments).mapError Stop.misuse >>= fun tokens =>
        takeTokens Progress.start tokens >>= Progress.finish := by
  rw [parse, splitMarker_of_notMem unmarked]

/-! ## Runs that print an adapter -/

theorem parse_source {source name : String} (plainSource : Undashed source)
    (plainName : Undashed name) :
    parse [source, name] = .ok ⟨source, name, false, false, none⟩ := by
  have unmarked : endMarker ∉ [source, name] := by
    simp [plainSource.ne_endMarker.symm, plainName.ne_endMarker.symm]
  have classified : classifyAll [source, name] = .ok [.positional source, .positional name] := by
    simp [classifyAll, plainSource.classify, plainName.classify]
  rw [parse_of_notMem unmarked, classified]
  rfl

theorem parse_snapshot {path name : String} (plainPath : Undashed path)
    (plainName : Undashed name) :
    parse [path, name, "--snapshot"] = .ok ⟨path, name, true, false, none⟩ := by
  have unmarked : endMarker ∉ [path, name, "--snapshot"] := by
    have option : endMarker ≠ "--snapshot" := by decide
    simp [plainPath.ne_endMarker.symm, plainName.ne_endMarker.symm, option]
  have option : classify "--snapshot" = .ok (.option .snapshot none) := rfl
  have classified : classifyAll [path, name, "--snapshot"] =
      .ok [.positional path, .positional name, .option .snapshot none] := by
    simp [classifyAll, plainPath.classify, plainName.classify, option]
  rw [parse_of_notMem unmarked, classified]
  rfl

/-! ## Runs that save a snapshot -/

/-- What a token does without taking a place of its own: the interface stays as it was. -/
theorem Progress.interface_of_switch {progress changed : Progress} {choice : Choice}
    (succeeds : progress.switch choice = .ok changed) :
    changed.interface = progress.interface := by
  cases choice <;> cases succeeds <;> rfl

theorem Progress.interface_of_switchAll {progress changed : Progress} {choices : List Choice}
    (succeeds : progress.switchAll choices = .ok changed) :
    changed.interface = progress.interface := by
  induction choices generalizing progress with
  | nil =>
      cases succeeds
      rfl
  | cons choice choices ih =>
      obtain ⟨first, switched, succeeds⟩ := exists_of_bind_eq_ok succeeds
      rw [ih succeeds, interface_of_switch switched]

theorem interface_of_takeAttached {progress changed : Progress} {choice : Choice}
    {attached : Attached} (succeeds : takeAttached progress choice attached = .ok changed) :
    changed.interface = progress.interface := by
  unfold takeAttached at succeeds
  split at succeeds
  · cases succeeds
    rfl
  · cases succeeds
  · obtain ⟨choices, -, succeeds⟩ := exists_of_bind_eq_ok succeeds
    exact Progress.interface_of_switchAll succeeds

theorem Progress.finish_ne_ok {progress : Progress} (unplaced : progress.interface = none)
    (invocation : Invocation) : progress.finish ≠ .ok invocation := by
  rw [finish, unplaced]
  cases progress.source <;> exact nofun

theorem eq_of_classifyRest {argument text : String}
    (positional : classifyRest argument = .positional text) : text = argument := by
  unfold classifyRest at positional
  split at positional <;> cases positional
  rfl

theorem eq_of_classifyDashed {argument text : String}
    (positional : classifyDashed argument = .ok (.positional text)) : text = argument := by
  unfold classifyDashed at positional
  simp only at positional
  split at positional
  · cases positional
  · split at positional
    · unfold classifyLong at positional
      simp only at positional
      split at positional
      · exact eq_of_classifyRest (Except.ok.inj positional)
      · cases positional
      · cases positional
    · unfold classifyShort at positional
      split at positional
      · cases positional
      · exact eq_of_classifyRest (Except.ok.inj positional)

/-- A positional argument is taken as it is. -/
theorem eq_of_classify {argument text : String}
    (positional : classify argument = .ok (.positional text)) : text = argument := by
  unfold classify at positional
  split at positional
  · exact eq_of_classifyDashed positional
  · cases positional
    rfl

theorem exists_classify_of_classifyAll {argument : String} {arguments : List String}
    {tokens : List Token} (classified : classifyAll (argument :: arguments) = .ok tokens) :
    ∃ token rest, classify argument = .ok token ∧ classifyAll arguments = .ok rest ∧
      tokens = token :: rest := by
  obtain ⟨token, isToken, classified⟩ := exists_of_bind_eq_ok classified
  obtain ⟨rest, areTokens, classified⟩ := exists_of_bind_eq_ok classified
  cases classified
  exact ⟨token, rest, isToken, areTokens, rfl⟩

/-- After a source and something that is no interface, no snapshot can be asked for. -/
theorem takeTokens_saveSnapshot {source path : String} {token : Token} {progress : Progress}
    (taken : takeTokens Progress.start
      [.positional source, token, .option .saveSnapshot none, .positional path] = .ok progress)
    (option : ∀ text, token ≠ .positional text) : progress.interface = none := by
  cases token with
  | positional text => exact absurd rfl (option text)
  | unknown text =>
      cases taken
      rfl
  | option choice attached =>
      cases attached with
      | some attached =>
          obtain ⟨changed, takes, taken⟩ := exists_of_bind_eq_ok taken
          cases taken
          exact interface_of_takeAttached takes
      | none =>
          cases choice <;> cases taken <;> rfl

/-- Who asks for a snapshot to be saved gives a source and an interface as plain arguments. -/
theorem eq_of_parse_saveSnapshot {source interface path : String} {invocation : Invocation}
    (plainSource : Undashed source) (plainPath : Undashed path)
    (parsed : parse [source, interface, "--save-snapshot", path] = .ok invocation) :
    invocation = ⟨source, interface, false, false, some path⟩ := by
  by_cases marked : interface = endMarker
  · -- The option counts as the interface then, and nothing takes the path.
    subst marked
    have refused : parse [source, endMarker, "--save-snapshot", path] =
        .error (.misuse (.unrecognized [path])) := by
      have split : splitMarker [source, endMarker, "--save-snapshot", path] =
          ([source], some ["--save-snapshot", path]) := by
        simp [splitMarker, plainSource.ne_endMarker]
      have classified : classifyAll [source] = .ok [.positional source] := by
        simp [classifyAll, plainSource.classify]
      rw [parse, split]
      simp only [classified]
      rfl
    rw [refused] at parsed
    cases parsed
  · have unmarked : endMarker ∉ [source, interface, "--save-snapshot", path] := by
      have option : endMarker ≠ "--save-snapshot" := by decide
      simp [plainSource.ne_endMarker.symm, plainPath.ne_endMarker.symm, Ne.symm marked, option]
    rw [parse_of_notMem unmarked] at parsed
    obtain ⟨tokens, classified, parsed⟩ := exists_of_bind_eq_ok parsed
    rw [mapError_eq_ok_iff] at classified
    obtain ⟨first, later, isFirst, afterFirst, rfl⟩ := exists_classify_of_classifyAll classified
    obtain ⟨second, last, isSecond, afterSecond, rfl⟩ := exists_classify_of_classifyAll afterFirst
    rw [plainSource.classify] at isFirst
    cases isFirst
    have option : classify "--save-snapshot" = .ok (.option .saveSnapshot none) := rfl
    simp only [classifyAll, option, plainPath.classify, ok_bind, pure_eq_ok] at afterSecond
    cases afterSecond
    by_cases positional : ∃ text, second = .positional text
    · obtain ⟨text, rfl⟩ := positional
      rw [eq_of_classify isSecond] at parsed
      cases parsed
      rfl
    · obtain ⟨progress, taken, parsed⟩ := exists_of_bind_eq_ok parsed
      have unplaced := takeTokens_saveSnapshot taken fun text same => positional ⟨text, same⟩
      exact absurd parsed (Progress.finish_ne_ok unplaced invocation)

end FuncAdapter.CommandLine
