import FuncAdapter.CommandLine.Run
import FuncAdapter.Proofs.CommandLine.Arguments

/-!
# Options between the source and the interface

Options may stand before, between and after the source and the interface.  Placing a value and
taking an option commute, so an interleaving of the two values with options asks for the same run as
the values followed by the options.  The last path for a snapshot counts.

There is one path that cannot be given: the end marker as a value stands for an empty one, also when
it is attached to its option.
-/

namespace FuncAdapter.CommandLine

/-- An option with its value, as it is spelled on the command line. -/
inductive Setting where
  | snapshot
  | verbose
  | verboseLetter
  /-- The path is an argument of its own. -/
  | save (path : String)
  /-- The path follows an equals sign. -/
  | saveAttached (path : String)
  deriving DecidableEq, Repr

namespace Setting

/-- The arguments that spell a setting. -/
def arguments : Setting → List String
  | snapshot => ["--snapshot"]
  | verbose => ["--verbose"]
  | verboseLetter => ["-v"]
  | save path => ["--save-snapshot", path]
  | saveAttached path => ["--save-snapshot=" ++ path]

/-- The path that a setting gives for a snapshot to write. -/
def path? : Setting → Option String
  | save path | saveAttached path => some path
  | _ => none

/-- Whether a setting asks for a snapshot to be read. -/
def asksSnapshot : Setting → Bool
  | snapshot => true
  | _ => false

/-- Whether a setting asks for messages. -/
def asksMessages : Setting → Bool
  | verbose | verboseLetter => true
  | _ => false

/-- A path that is an argument of its own cannot be taken for an option. -/
def Plain : Setting → Prop
  | save path => Undashed path
  | _ => True

instance : DecidablePred Plain
  | save path => inferInstanceAs (Decidable (Undashed path))
  | snapshot | verbose | verboseLetter | saveAttached _ => isTrue trivial

end Setting

/-- The path that was given last. -/
def lastPath (settings : List Setting) : Option String :=
  (settings.filterMap Setting.path?).getLast?

@[simp]
theorem lastPath_nil : lastPath [] = none := rfl

@[simp]
theorem lastPath_cons (setting : Setting) (settings : List Setting) :
    lastPath (setting :: settings) = (lastPath settings).or setting.path? := by
  cases given : setting.path? with
  | none => rw [lastPath, List.filterMap_cons_none given, Option.or_none, lastPath]
  | some path =>
      rw [lastPath, List.filterMap_cons_some given, List.getLast?_cons, lastPath]
      cases (settings.filterMap Setting.path?).getLast? <;> rfl

/--
Arguments that mix values with settings.  Both keep their order, and the arguments of a setting
stay together.
-/
inductive Interleaves : List String → List Setting → List String → Prop where
  | nil : Interleaves [] [] []
  | value (text : String) {values : List String} {settings : List Setting}
      {arguments : List String} :
      Interleaves values settings arguments →
        Interleaves (text :: values) settings (text :: arguments)
  | setting (setting : Setting) {values : List String} {settings : List Setting}
      {arguments : List String} :
      Interleaves values settings arguments →
        Interleaves values (setting :: settings) (setting.arguments ++ arguments)

/-! ## The arguments of a setting -/

/-- Arguments are classified without regard to those around them. -/
theorem classifyAll_append {arguments others : List String} {tokens later : List Token}
    (classified : classifyAll arguments = .ok tokens)
    (classifiedToo : classifyAll others = .ok later) :
    classifyAll (arguments ++ others) = .ok (tokens ++ later) := by
  induction arguments generalizing tokens with
  | nil =>
      cases classified
      exact classifiedToo
  | cons argument arguments ih =>
      obtain ⟨token, rest, isToken, areTokens, rfl⟩ := exists_classify_of_classifyAll classified
      rw [List.cons_append, classifyAll, isToken, ih areTokens]
      rfl

namespace Setting

/-- What the arguments of a setting are, each seen by itself. -/
def tokens : Setting → List Token
  | snapshot => [.option .snapshot none]
  | verbose => [.option .verbose none]
  | verboseLetter => [.option .verbose none]
  | save path => [.option .saveSnapshot none, .positional path]
  | saveAttached path => [.option .saveSnapshot (some (.value path))]

theorem toList_saveAttached (path : String) :
    ("--save-snapshot=" ++ path).toList = "--save-snapshot".toList ++ '=' :: path.toList := by
  rw [String.toList_append]
  rfl

theorem classify_saveAttached (path : String) :
    classify ("--save-snapshot=" ++ path) = .ok (.option .saveSnapshot (some (.value path))) := by
  have cut :
      splitEquals ("--save-snapshot".toList ++ '=' :: path.toList) =
        ("--save-snapshot".toList, some path.toList) := rfl
  have long : isLong ("--save-snapshot=" ++ path) = true := by
    rw [isLong, toList_saveAttached]
    rfl
  have found : choice? "--save-snapshot" = some .saveSnapshot := rfl
  have dashed :
      classify ("--save-snapshot=" ++ path) = classifyDashed ("--save-snapshot=" ++ path) := by
    rw [classify, toList_saveAttached]
    rfl
  rw [dashed, classifyDashed, toList_saveAttached, cut, long]
  simp only [String.ofList_toList, found, if_true, Option.map_some]

theorem classifyAll_arguments {setting : Setting} (plain : setting.Plain) :
    classifyAll setting.arguments = .ok setting.tokens := by
  cases setting with
  | snapshot => rfl
  | verbose => rfl
  | verboseLetter => rfl
  | save path =>
      have option : classify "--save-snapshot" = .ok (.option .saveSnapshot none) := rfl
      have value : classify path = .ok (.positional path) := Undashed.classify plain
      simp [Setting.arguments, Setting.tokens, classifyAll, option, value]
  | saveAttached path =>
      simp [Setting.arguments, Setting.tokens, classifyAll, classify_saveAttached]

theorem endMarker_notMem_arguments {setting : Setting} (plain : setting.Plain) :
    endMarker ∉ setting.arguments := by
  cases setting with
  | snapshot => decide
  | verbose => decide
  | verboseLetter => decide
  | save path =>
      have option : endMarker ≠ "--save-snapshot" := by decide
      have value : endMarker ≠ path := (Undashed.ne_endMarker plain).symm
      simp [Setting.arguments, option, value]
  | saveAttached path =>
      have longer : endMarker ≠ "--save-snapshot=" ++ path := by
        intro same
        have characters := congrArg String.toList same
        rw [toList_saveAttached] at characters
        cases characters
      simpa [Setting.arguments] using longer

end Setting

/-! ## States that differ in the last argument only -/

namespace Progress

variable {progress other third : Progress}

/-- Two states that are alike, except perhaps for how the last argument was taken. -/
def Alike (progress other : Progress) : Prop :=
  ∃ placed, other = { progress with placed := placed }

theorem Alike.refl (progress : Progress) : progress.Alike progress :=
  ⟨progress.placed, rfl⟩

theorem Alike.trans (first : progress.Alike other) (second : other.Alike third) :
    progress.Alike third := by
  obtain ⟨placed, rfl⟩ := first
  obtain ⟨placedLater, rfl⟩ := second
  exact ⟨placedLater, rfl⟩

theorem Alike.finish (alike : progress.Alike other) : other.finish = progress.finish := by
  obtain ⟨placed, rfl⟩ := alike
  rfl

theorem Alike.place (alike : progress.Alike other) (text : String) :
    (progress.place text).Alike (other.place text) := by
  obtain ⟨changed, rfl⟩ := alike
  obtain ⟨source, interface, snapshot, verbose, savePath, extras, placed⟩ := progress
  cases source <;> cases interface <;> exact ⟨_, rfl⟩

/-- Let a setting take effect. -/
def take (progress : Progress) : Setting → Progress
  | .snapshot => { progress with snapshot := true, placed := false }
  | .verbose | .verboseLetter => { progress with verbose := true, placed := false }
  | .save path | .saveAttached path => progress.saveTo (valueOf path)

theorem Alike.take (alike : progress.Alike other) (setting : Setting) :
    (progress.take setting).Alike (other.take setting) := by
  obtain ⟨placed, rfl⟩ := alike
  cases setting <;> exact ⟨false, rfl⟩

/-- A value is placed where it would be placed before the setting. -/
theorem alike_take_place (progress : Progress) (text : String) (setting : Setting) :
    ((progress.place text).take setting).Alike ((progress.take setting).place text) := by
  obtain ⟨source, interface, snapshot, verbose, savePath, extras, placed⟩ := progress
  cases setting <;> cases source <;> cases interface <;> exact ⟨_, rfl⟩

/-- Place values one after another. -/
def placeAll (progress : Progress) (values : List String) : Progress :=
  values.foldl place progress

/-- Let settings take effect one after another. -/
def takeAll (progress : Progress) (settings : List Setting) : Progress :=
  settings.foldl take progress

theorem Alike.placeAll (alike : progress.Alike other) (values : List String) :
    (progress.placeAll values).Alike (other.placeAll values) := by
  induction values generalizing progress other with
  | nil => exact alike
  | cons text values ih => exact ih (alike.place text)

theorem Alike.takeAll (alike : progress.Alike other) (settings : List Setting) :
    (progress.takeAll settings).Alike (other.takeAll settings) := by
  induction settings generalizing progress other with
  | nil => exact alike
  | cons setting settings ih => exact ih (alike.take setting)

theorem alike_take_placeAll (progress : Progress) (values : List String) (setting : Setting) :
    ((progress.placeAll values).take setting).Alike ((progress.take setting).placeAll values) := by
  induction values generalizing progress with
  | nil => exact Alike.refl _
  | cons text values ih =>
      have moved := (alike_take_place progress text setting).placeAll values
      exact (ih (progress.place text)).trans moved

/-- What settings amount to: each switch that is on somewhere, and the last path. -/
theorem takeAll_eq (progress : Progress) (settings : List Setting) :
    progress.takeAll settings =
      { progress with
        snapshot := progress.snapshot || settings.any Setting.asksSnapshot
        verbose := progress.verbose || settings.any Setting.asksMessages
        savePath := ((lastPath settings).map valueOf).or progress.savePath
        placed := progress.placed && settings.isEmpty } := by
  induction settings generalizing progress with
  | nil => simp [takeAll]
  | cons setting settings ih =>
      rw [takeAll, List.foldl_cons, ← takeAll, ih]
      cases setting <;>
        simp [take, saveTo, Setting.asksSnapshot, Setting.asksMessages, Setting.path?]

end Progress

/-! ## Reading an interleaving -/

/-- The arguments of a setting take effect together. -/
theorem takeTokens_tokens_append {setting : Setting} (plain : setting.Plain)
    (progress : Progress) (tokens : List Token) :
    takeTokens progress (setting.tokens ++ tokens) = takeTokens (progress.take setting) tokens := by
  cases setting with
  | snapshot => rfl
  | verbose => rfl
  | verboseLetter => rfl
  | save path =>
      have kept : valueOf path = path := if_neg (Undashed.ne_endMarker plain)
      rw [Progress.take, kept]
      rfl
  | saveAttached path => rfl

namespace Interleaves

variable {values : List String} {settings : List Setting} {arguments : List String}

theorem endMarker_notMem (mixed : Interleaves values settings arguments)
    (plainValues : ∀ text ∈ values, Undashed text)
    (plainSettings : ∀ setting ∈ settings, setting.Plain) :
    endMarker ∉ arguments := by
  induction mixed with
  | nil => exact List.not_mem_nil
  | value text mixed ih =>
      obtain ⟨plainText, plainValues⟩ := List.forall_mem_cons.mp plainValues
      rw [List.mem_cons, not_or]
      exact ⟨plainText.ne_endMarker.symm, ih plainValues plainSettings⟩
  | setting setting mixed ih =>
      obtain ⟨plainSetting, plainSettings⟩ := List.forall_mem_cons.mp plainSettings
      rw [List.mem_append, not_or]
      exact ⟨setting.endMarker_notMem_arguments plainSetting, ih plainValues plainSettings⟩

/-- An interleaving has the effect of its values followed by its settings. -/
theorem exists_takeTokens_alike (mixed : Interleaves values settings arguments)
    (plainValues : ∀ text ∈ values, Undashed text)
    (plainSettings : ∀ setting ∈ settings, setting.Plain) :
    ∃ tokens, classifyAll arguments = .ok tokens ∧
      ∀ progress, ∃ reached, takeTokens progress tokens = .ok reached ∧
        ((progress.placeAll values).takeAll settings).Alike reached := by
  induction mixed with
  | nil => exact ⟨[], rfl, fun progress => ⟨progress, rfl, Progress.Alike.refl progress⟩⟩
  | value text mixed ih =>
      obtain ⟨plainText, plainValues⟩ := List.forall_mem_cons.mp plainValues
      obtain ⟨tokens, classified, taken⟩ := ih plainValues plainSettings
      refine ⟨.positional text :: tokens, ?_, fun progress => taken (progress.place text)⟩
      rw [classifyAll, plainText.classify, classified]
      rfl
  | @setting setting values settings arguments mixed ih =>
      obtain ⟨plainSetting, plainSettings⟩ := List.forall_mem_cons.mp plainSettings
      obtain ⟨tokens, classified, taken⟩ := ih plainValues plainSettings
      refine ⟨setting.tokens ++ tokens,
        classifyAll_append (Setting.classifyAll_arguments plainSetting) classified,
        fun progress => ?_⟩
      -- The setting was taken before the values; it counts as the first one after them.
      obtain ⟨reached, takes, alike⟩ := taken (progress.take setting)
      rw [takeTokens_tokens_append plainSetting]
      have moved := (progress.alike_take_placeAll values setting).takeAll settings
      exact ⟨reached, takes, moved.trans alike⟩

end Interleaves

section Pairs

variable {source interface : String} {settings : List Setting} {arguments : List String}

/-- The run that a source, an interface and settings ask for. -/
def invocationOf (source interface : String) (settings : List Setting) : Invocation where
  source := source
  interface := interface
  snapshot := settings.any Setting.asksSnapshot
  verbose := settings.any Setting.asksMessages
  savePath := (lastPath settings).map valueOf

theorem finish_takeAll_placeAll (source interface : String) (settings : List Setting) :
    ((Progress.start.placeAll [source, interface]).takeAll settings).finish =
      .ok (invocationOf source interface settings) := by
  rw [Progress.takeAll_eq]
  simp [Progress.placeAll, Progress.place, Progress.start, Progress.finish, invocationOf]

theorem Interleaves.parse_eq (mixed : Interleaves [source, interface] settings arguments)
    (plainSource : Undashed source) (plainInterface : Undashed interface)
    (plainSettings : ∀ setting ∈ settings, setting.Plain) :
    parse arguments = .ok (invocationOf source interface settings) := by
  have plainValues : ∀ text ∈ [source, interface], Undashed text := by
    simp [plainSource, plainInterface]
  obtain ⟨tokens, classified, taken⟩ := mixed.exists_takeTokens_alike plainValues plainSettings
  obtain ⟨reached, takes, alike⟩ := taken Progress.start
  rw [parse_of_notMem (mixed.endMarker_notMem plainValues plainSettings), classified,
    mapError_ok, ok_bind, takes, ok_bind, alike.finish, finish_takeAll_placeAll]

/--
Arguments that mix a source and an interface with settings ask for the same run wherever the two
stand: all that was switched on, and the path that was given last.
-/
theorem run_of_interleaves (plainSource : Undashed source) (plainInterface : Undashed interface)
    (plainSettings : ∀ setting ∈ settings, setting.Plain)
    (mixed : Interleaves [source, interface] settings arguments) :
    parse arguments = .ok (invocationOf source interface settings) ∧
      ∀ others, Interleaves [source, interface] settings others →
        ∀ surroundings, run surroundings others = run surroundings arguments := by
  have parsed := mixed.parse_eq plainSource plainInterface plainSettings
  refine ⟨parsed, fun others mixedToo surroundings => ?_⟩
  have parsedToo := mixedToo.parse_eq plainSource plainInterface plainSettings
  rw [run, run, parsed, parsedToo]

end Pairs

/-- Four settings around and between the two values, and the same settings after them. -/
theorem run_of_interleaves_four :
    parse ["-v", "p", "--save-snapshot", "a", "--snapshot", "C", "--save-snapshot=-b=c"] =
        .ok ⟨"p", "C", true, true, some "-b=c"⟩ ∧
      ∀ surroundings,
        run surroundings
            ["p", "C", "-v", "--save-snapshot", "a", "--snapshot", "--save-snapshot=-b=c"] =
          run surroundings
            ["-v", "p", "--save-snapshot", "a", "--snapshot", "C", "--save-snapshot=-b=c"] := by
  have around :
      Interleaves ["p", "C"] [.verboseLetter, .save "a", .snapshot, .saveAttached "-b=c"]
        ["-v", "p", "--save-snapshot", "a", "--snapshot", "C", "--save-snapshot=-b=c"] :=
    .setting .verboseLetter <| .value "p" <| .setting (.save "a") <| .setting .snapshot <|
      .value "C" <| .setting (.saveAttached "-b=c") .nil
  have behind :
      Interleaves ["p", "C"] [.verboseLetter, .save "a", .snapshot, .saveAttached "-b=c"]
        ["p", "C", "-v", "--save-snapshot", "a", "--snapshot", "--save-snapshot=-b=c"] :=
    .value "p" <| .value "C" <| .setting .verboseLetter <| .setting (.save "a") <|
      .setting .snapshot <| .setting (.saveAttached "-b=c") .nil
  obtain ⟨parsed, same⟩ := run_of_interleaves (by decide) (by decide) (by decide) around
  exact ⟨parsed, same _ behind⟩

/-- The end marker after the equals sign is no path: none is given then, and nothing is saved. -/
theorem attached_endMarker_not_saved :
    Undashed "p" ∧ Undashed "C" ∧ (Setting.saveAttached "--").Plain ∧
      Interleaves ["p", "C"] [.saveAttached "--"] ["p", "C", "--save-snapshot=--"] ∧
      lastPath [.saveAttached "--"] = some "--" ∧
      parse ["p", "C", "--save-snapshot=--"] = .ok ⟨"p", "C", false, false, some ""⟩ ∧
      ∀ surroundings,
        run surroundings ["p", "C", "--save-snapshot=--"] = run surroundings ["p", "C"] := by
  have mixed :
      Interleaves ["p", "C"] [.saveAttached "--"] ["p", "C", "--save-snapshot=--"] :=
    .value "p" <| .value "C" <| .setting (.saveAttached "--") .nil
  exact ⟨by decide, by decide, by decide, mixed, rfl, rfl, fun _ => rfl⟩

end FuncAdapter.CommandLine
