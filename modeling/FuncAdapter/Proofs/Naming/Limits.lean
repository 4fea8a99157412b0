import FuncAdapter.Proofs.Naming.Convergence

/-!
# Limits of passes

A limited number of passes looks for distinct names among the rounds of `renumber`.  The first pass
looks at the names as they were given, so a limit reaches one round less than it has passes: names
that the last pass has made distinct are not seen to be distinct.

A limit of two passes reaches one round.  It is enough when no name is another one with digits
behind it: a number then leads to no name that was there, and numbers of different names do not
meet.
-/

namespace FuncAdapter.Naming

/-! ## Names cut into groups -/

/-- Names that are cut into groups of the same sizes as given ones. -/
structure CutLike (groups result : List (List String)) (names : List String) : Prop where
  sizes : result.map List.length = groups.map List.length
  order : result.flatten = names

/-- There is one way to cut names into groups of given sizes. -/
theorem cutLike_iff {groups result : List (List String)} {names : List String}
    (enough : names.length = groups.flatten.length) :
    CutLike groups result names ↔ result = regroup groups names := by
  constructor
  · intro cut
    apply List.eq_iff_flatten_eq.mpr
    constructor
    · rw [cut.order, flatten_regroup groups names enough]
    · rw [cut.sizes, map_length_regroup groups names enough]
  · rintro rfl
    exact ⟨map_length_regroup groups names enough, flatten_regroup groups names enough⟩

theorem cutLike_iterate_iff {groups result : List (List String)} (round : Nat) :
    CutLike groups result (renumber^[round] groups.flatten) ↔
      result = regroup groups (renumber^[round] groups.flatten) :=
  cutLike_iff (length_iterate_renumber round groups.flatten)

/-! ## Searches among rounds -/

/-- Passes do not finish exactly when none of the rounds they look at is distinct. -/
theorem number_eq_unfinished_iff (passes : Nat) (names result : List String) :
    number passes names = .unfinished result ↔
      (∀ round < passes, ¬ (renumber^[round] names).Nodup) ∧ result = renumber^[passes] names := by
  induction passes generalizing names with
  | zero => simp [number, eq_comm]
  | succ passes ih =>
      rw [number_succ]
      by_cases distinct : names.Nodup
      · rw [if_pos distinct]
        constructor
        · intro finished
          cases finished
        · rintro ⟨repeats, -⟩
          exact absurd distinct (repeats 0 (Nat.succ_pos passes))
      · rw [if_neg distinct, ih]
        constructor
        · rintro ⟨repeats, same⟩
          refine ⟨?_, same⟩
          intro round inside
          cases round with
          | zero => exact distinct
          | succ round => exact repeats round (Nat.lt_of_succ_lt_succ inside)
        · rintro ⟨repeats, same⟩
          exact ⟨fun round inside => repeats (round + 1) (Nat.succ_lt_succ inside), same⟩

/-- A limit fails exactly when none of the rounds it reaches is distinct. -/
theorem distinctWithin_eq_error_iff {limit : Int} {groups : List (List String)}
    {failure : NotDistinct} :
    distinctWithin limit groups = .error failure ↔
      (∀ round < limit.toNat, ¬ (renumber^[round] groups.flatten).Nodup) ∧
        failure = ⟨limit, regroup groups (renumber^[limit.toNat] groups.flatten)⟩ := by
  rw [distinctWithin]
  constructor
  · intro fails
    split at fails
    · cases fails
    · next names numbered =>
        cases fails
        obtain ⟨repeats, rfl⟩ := (number_eq_unfinished_iff _ _ _).mp numbered
        exact ⟨repeats, rfl⟩
  · rintro ⟨repeats, rfl⟩
    rw [(number_eq_unfinished_iff _ _ _).mpr ⟨repeats, rfl⟩]

/--
Making names distinct within a limit, which may be negative, is a search among the rounds of
`renumber` before the limit.  It succeeds exactly when one of them is distinct, with the first such
round cut into the groups; else it fails, and the message shows the round at the limit cut likewise.
-/
theorem distinctWithin_searches_rounds (limit : Int) (groups : List (List String)) :
    ((∃ result, distinctWithin limit groups = .ok result) ↔
        ∃ round : Nat, (round : Int) < limit ∧ (renumber^[round] groups.flatten).Nodup) ∧
      (∀ result, distinctWithin limit groups = .ok result ↔
        ∃ round : Nat, (round : Int) < limit ∧
          (renumber^[round] groups.flatten).Nodup ∧
          (∀ earlier < round, ¬ (renumber^[earlier] groups.flatten).Nodup) ∧
          CutLike groups result (renumber^[round] groups.flatten)) ∧
      ∀ failure, distinctWithin limit groups = .error failure ↔
        (∀ round : Nat, (round : Int) < limit → ¬ (renumber^[round] groups.flatten).Nodup) ∧
          failure.limit = limit ∧
          CutLike groups failure.groups (renumber^[(max limit 0).toNat] groups.flatten) ∧
          failure.message =
            "parameter names did not converge after " ++ limit.repr ++ " passes: [" ++
              Text.join ", " (failure.groups.map Text.quotedList) ++ "]" := by
  have reached : ∀ round : Nat, round < limit.toNat ↔ (round : Int) < limit := fun round =>
    Int.lt_toNat
  have bounded : (max limit 0).toNat = limit.toNat := by omega
  refine ⟨?_, ?_, ?_⟩
  · constructor
    · rintro ⟨result, succeeds⟩
      obtain ⟨round, inside, -, distinct, -⟩ := distinctWithin_eq_ok_iff.mp succeeds
      exact ⟨round, (reached round).mp inside, distinct⟩
    · rintro ⟨round, inside, distinct⟩
      exact ⟨_, distinctWithin_of_nodup_iterate distinct ((reached round).mpr inside)⟩
  · intro result
    simp only [distinctWithin_eq_ok_iff, cutLike_iterate_iff, reached]
    constructor
    · rintro ⟨round, inside, same, distinct, first⟩
      exact ⟨round, inside, distinct, first, same⟩
    · rintro ⟨round, inside, distinct, first, same⟩
      exact ⟨round, inside, same, distinct, first⟩
  · intro failure
    simp only [distinctWithin_eq_error_iff, cutLike_iterate_iff, reached, bounded]
    constructor
    · rintro ⟨repeats, rfl⟩
      exact ⟨repeats, rfl, rfl, rfl⟩
    · rintro ⟨repeats, rfl, sameGroups, -⟩
      refine ⟨repeats, ?_⟩
      rw [← sameGroups]

/-- The second pass makes the names distinct, but only a third one would see it. -/
example :
    distinctWithin 2 [["v"], ["v", "v1"]] = .error ⟨2, [["v11"], ["v2", "v12"]]⟩ ∧
      distinctWithin 3 [["v"], ["v", "v1"]] = .ok [["v11"], ["v2", "v12"]] := by
  decide +kernel

/-! ## Two passes -/

/-- Different numbers make different names. -/
theorem numbered_injective (name : String) : Function.Injective (Pass.numbered name) := by
  intro first second same
  have digits : Nat.toDigits 10 first = Nat.toDigits 10 second := by
    rw [← Nat.toList_repr, ← Nat.toList_repr, (String.append_right_inj name).mp same]
  calc
    first = Nat.ofDigitChars 10 (Nat.toDigits 10 first) 0 :=
      (Nat.ofDigitChars_toDigits (by decide) (by decide)).symm
    _ = Nat.ofDigitChars 10 (Nat.toDigits 10 second) 0 := by rw [digits]
    _ = second := Nat.ofDigitChars_toDigits (by decide) (by decide)

/-- The occurrences of a name are numbered in their order. -/
theorem occurrence_lt_occurrence {names : List String} {first second : Nat} {name : String}
    (found : names[first]? = some name) (before : first < second) :
    occurrence names first name < occurrence names second name := by
  have inside : (names.take second)[first]? = some name := by
    rwa [List.getElem?_take_of_lt before]
  have fewer := count_take_lt_count inside
  rw [List.take_take, Nat.min_eq_left before.le] at fewer
  exact Nat.succ_lt_succ fewer

theorem place_eq_of_occurrence_eq {names : List String} {first second : Nat} {name : String}
    (foundFirst : names[first]? = some name) (foundSecond : names[second]? = some name)
    (same : occurrence names first name = occurrence names second name) :
    first = second := by
  rcases Nat.lt_trichotomy first second with before | equal | after
  · exact absurd same (occurrence_lt_occurrence foundFirst before).ne
  · exact equal
  · exact absurd same (occurrence_lt_occurrence foundSecond after).ne'

/-- No name is another one of the names with digits behind it. -/
def Unextended (names : List String) : Prop :=
  ∀ name ∈ names, ∀ other ∈ names, Grows name other → name = other

instance (names : List String) : Decidable (Unextended names) :=
  inferInstanceAs (Decidable (∀ name ∈ names, ∀ other ∈ names, Grows name other → name = other))

/-- Names are distinct after one round if none is another one with digits behind it. -/
theorem Unextended.nodup_renumber {names : List String} (unextended : Unextended names) :
    (renumber names).Nodup := by
  rw [List.nodup_iff_count_le_one]
  intro target
  by_contra repeated
  obtain ⟨first, second, different, foundFirst, foundSecond⟩ :=
    one_lt_count_iff.mp (Nat.lt_of_not_le repeated)
  obtain ⟨name, presentFirst, growsFirst⟩ := grows_renumber foundFirst
  obtain ⟨other, presentSecond, growsSecond⟩ := grows_renumber foundSecond
  have memberFirst : name ∈ names := List.mem_of_getElem? presentFirst
  have memberSecond : other ∈ names := List.mem_of_getElem? presentSecond
  have same : name = other := by
    rcases growsFirst.comparable growsSecond with forth | back
    · exact unextended name memberFirst other memberSecond forth
    · exact (unextended other memberSecond name memberFirst back).symm
  subst same
  have twice : 1 < names.count name :=
    one_lt_count_iff.mpr ⟨first, second, different, presentFirst, presentSecond⟩
  rw [getElem?_renumber_of_repeated presentFirst twice] at foundFirst
  rw [getElem?_renumber_of_repeated presentSecond twice] at foundSecond
  -- Equal names with equal numbers are the same occurrence.
  have sameName := Option.some.inj (foundFirst.trans foundSecond.symm)
  have sameNumber := numbered_injective name sameName
  exact different (place_eq_of_occurrence_eq presentFirst presentSecond sameNumber)

theorem unextended_replicate (count : Nat) (name : String) :
    Unextended (List.replicate count name) := by
  intro first memberFirst second memberSecond _
  rw [List.eq_of_mem_replicate memberFirst, List.eq_of_mem_replicate memberSecond]

theorem renumber_replicate {count : Nat} (repeated : 1 < count) (name : String) :
    renumber (List.replicate count name) =
      (List.range count).map fun earlier => Pass.numbered name (earlier + 1) := by
  apply List.ext_getElem?
  intro place
  rw [getElem?_renumber, List.getElem?_replicate, List.getElem?_map]
  by_cases inside : place < count
  · simp [inside, inside.le, repeated, occurrence, List.take_replicate]
  · simp [inside]

/-- Two passes give every repeated name its numbers if no name is another one with digits. -/
theorem Unextended.distinctWithin_eq {groups : List (List String)}
    (unextended : Unextended groups.flatten) {limit : Int} (enough : 2 ≤ limit) :
    distinctWithin limit groups = .ok (regroup groups (renumber groups.flatten)) := by
  have distinct : (renumber^[1] groups.flatten).Nodup := unextended.nodup_renumber
  have inside : 1 < limit.toNat := by omega
  exact distinctWithin_of_nodup_iterate distinct inside

/--
If no name is another one with digits behind it, two passes are enough for groups of any sizes: a
name that occurs once is kept, and every occurrence of a repeated name gets its number.  So equal
names, two or more of them, get the numbers from one on.
-/
theorem distinctWithin_numbers_occurrences {limit : Int} (enough : 2 ≤ limit) :
    (∀ groups : List (List String), Unextended groups.flatten →
      ∃ result, distinctWithin limit groups = .ok result ∧
        result.map List.length = groups.map List.length ∧
        ∀ (place : Nat) (name : String), groups.flatten[place]? = some name →
          (groups.flatten.count name = 1 → result.flatten[place]? = some name) ∧
            (2 ≤ groups.flatten.count name →
              result.flatten[place]? =
                some (name ++ (occurrence groups.flatten place name).repr))) ∧
      ∀ (groups : List (List String)) (name : String) (count : Nat),
        2 ≤ count → groups.flatten = List.replicate count name →
          ∃ result, distinctWithin limit groups = .ok result ∧
            result.map List.length = groups.map List.length ∧
            result.flatten = (List.range count).map fun earlier => name ++ (earlier + 1).repr := by
  constructor
  · intro groups unextended
    have sameLength := length_renumber groups.flatten
    refine ⟨_, unextended.distinctWithin_eq enough, map_length_regroup groups _ sameLength, ?_⟩
    intro place name found
    rw [flatten_regroup groups _ sameLength]
    constructor
    · intro single
      exact getElem?_renumber_of_single found single.le.not_gt
    · intro repeated
      exact getElem?_renumber_of_repeated found repeated
  · intro groups name count several copies
    have unextended : Unextended groups.flatten := copies ▸ unextended_replicate count name
    have sameLength := length_renumber groups.flatten
    refine ⟨_, unextended.distinctWithin_eq enough, map_length_regroup groups _ sameLength, ?_⟩
    rw [flatten_regroup groups _ sameLength, copies]
    exact renumber_replicate several name

/-- Twelve equal names get numbers with two digits, around a name that is kept. -/
theorem distinctWithin_numbers_occurrences_twelve :
    (2 : Int) ≤ 2 ∧
      Unextended [["v", "err"], [], List.replicate 11 "v"].flatten ∧
      ∃ result, distinctWithin 2 [["v", "err"], [], List.replicate 11 "v"] = .ok result ∧
        result.flatten[0]? = some "v1" ∧ result.flatten[1]? = some "err" ∧
        result.flatten[12]? = some "v12" := by
  have enough : (2 : Int) ≤ 2 := by decide
  have unextended : Unextended [["v", "err"], [], List.replicate 11 "v"].flatten := by
    decide +kernel
  obtain ⟨result, succeeds, -, places⟩ :=
    (distinctWithin_numbers_occurrences enough).1 _ unextended
  refine ⟨enough, unextended, result, succeeds, ?_, ?_, ?_⟩
  · exact (places 0 "v" rfl).2 (by decide)
  · exact (places 1 "err" rfl).1 (by decide)
  · exact (places 12 "v" rfl).2 (by decide)

end FuncAdapter.Naming
