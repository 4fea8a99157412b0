import FuncAdapter.Proofs.Naming.Limits

/-!
# Names that need every pass

A limit of as many passes as names is always enough.  This module shows that no smaller limit is: a
ladder is a name, the same name again, and the name with one, two and more ones behind it.  Every
round repeats only two of its names, the first one and the next rung.  The first one gets another
one behind it and so meets the rung after that, while the rung that it leaves gets a two and is met
by no name again.

So the names after every round are known in closed form, and they are distinct only when the first
name has passed all rungs.
-/

namespace FuncAdapter.Naming

/-- A name with ones behind it. -/
def withOnes (stem : String) (count : Nat) : String :=
  stem ++ String.ofList (List.replicate count '1')

/-- A number of names: a name, and the name with no, one, two and more ones behind it. -/
def ladder (stem : String) (count : Nat) : List String :=
  stem :: (List.range (count - 1)).map (withOnes stem)

/-- The name of a rung after some rounds, which have put a two behind the rungs below. -/
def rung (stem : String) (round place : Nat) : String :=
  if place < round then withOnes stem place ++ "2" else withOnes stem place

/-- The names of a ladder after some rounds, in which the first name has climbed as many rungs. -/
def climbed (stem : String) (rungs round : Nat) : List String :=
  (round :: List.range rungs).map (rung stem round)

/-! ## Rungs -/

theorem toList_withOnes (stem : String) (count : Nat) :
    (withOnes stem count).toList = stem.toList ++ List.replicate count '1' := by
  rw [withOnes, String.toList_append, String.toList_ofList]

theorem numbered_withOnes_one (stem : String) (count : Nat) :
    Pass.numbered (withOnes stem count) 1 = withOnes stem (count + 1) := by
  rw [Pass.numbered, withOnes, withOnes, List.replicate_succ', String.ofList_append,
    String.append_assoc]
  rfl

theorem withOnes_injective (stem : String) : Function.Injective (withOnes stem) := by
  intro first second same
  have lengths := congrArg (fun name => name.toList.length) same
  simp only [toList_withOnes, List.length_append, List.length_replicate] at lengths
  omega

/-- A name with a two at the end is not the stem with ones behind it. -/
theorem withOnes_append_two_ne (stem : String) (first second : Nat) :
    withOnes stem first ++ "2" ≠ withOnes stem second := by
  intro same
  have ends : List.replicate first '1' ++ ['2'] = List.replicate second '1' := by
    apply (List.append_right_inj stem.toList).mp
    rw [← List.append_assoc, ← toList_withOnes, ← toList_withOnes, ← same, String.toList_append]
    rfl
  have member : '2' ∈ List.replicate second '1' := by
    rw [← ends]
    exact List.mem_append_right _ List.mem_cons_self
  exact absurd (List.eq_of_mem_replicate member) (by decide)

/-- In every round the rungs have different names. -/
theorem rung_injective (stem : String) (round : Nat) : Function.Injective (rung stem round) := by
  intro first second same
  rw [rung, rung] at same
  split at same
  · split at same
    · exact withOnes_injective stem ((String.append_left_inj "2").mp same)
    · exact absurd same (withOnes_append_two_ne stem first second)
  · split at same
    · exact absurd same.symm (withOnes_append_two_ne stem second first)
    · exact withOnes_injective stem same

theorem rung_self (stem : String) (round : Nat) : rung stem round round = withOnes stem round :=
  if_neg (Nat.lt_irrefl round)

/-- The rung that is left in a round gets a two. -/
theorem rung_succ_self (stem : String) (round : Nat) :
    rung stem (round + 1) round = Pass.numbered (withOnes stem round) 2 :=
  if_pos (Nat.lt_succ_self round)

theorem rung_succ_of_ne (stem : String) {round place : Nat} (elsewhere : round ≠ place) :
    rung stem (round + 1) place = rung stem round place := by
  have same : place < round + 1 ↔ place < round := by omega
  simp only [rung, same]

/-! ## Rounds -/

/-- A round changes two names if the first one occurs once again and no other name is repeated. -/
theorem renumber_cons_of_nodup {first : String} {rest : List String} {place : Nat}
    (distinct : rest.Nodup) (found : rest[place]? = some first) :
    renumber (first :: rest) =
      Pass.numbered first 1 :: rest.set place (Pass.numbered first 2) := by
  have single : rest.count first = 1 :=
    List.count_eq_one_of_mem distinct (List.mem_of_getElem? found)
  have twice : (first :: rest).count first = 2 := by rw [List.count_cons_self, single]
  have repeated : 1 < (first :: rest).count first := by omega
  apply List.ext_getElem?
  rintro (_ | other)
  · rw [getElem?_renumber_of_repeated List.getElem?_cons_zero repeated]
    rfl
  · rw [List.getElem?_cons_succ, List.getElem?_set]
    split_ifs with here inside
    · subst here
      have before := count_take_lt_count found
      have second : occurrence (first :: rest) (place + 1) first = 2 := by
        rw [occurrence, List.take_succ_cons, List.count_cons_self]
        omega
      have again : (first :: rest)[place + 1]? = some first := found
      rw [getElem?_renumber_of_repeated again repeated, second]
    · subst here
      exact absurd (List.getElem?_eq_some_iff.mp found).1 inside
    · cases foundOther : rest[other]? with
      | none => rw [getElem?_renumber, List.getElem?_cons_succ, foundOther, Option.map_none]
      | some name =>
          have different : first ≠ name := by
            rintro rfl
            apply here
            rw [place_eq_idxOf single found, place_eq_idxOf single foundOther]
          have once : ¬ 1 < (first :: rest).count name := by
            rw [List.count_cons_of_ne different]
            exact Nat.not_lt.mpr (List.nodup_iff_count_le_one.mp distinct name)
          exact getElem?_renumber_of_single foundOther once

/-- A round takes the first name of a ladder one rung up. -/
theorem renumber_climbed (stem : String) {rungs round : Nat} (below : round < rungs) :
    renumber (climbed stem rungs round) = climbed stem rungs (round + 1) := by
  have distinct : ((List.range rungs).map (rung stem round)).Nodup :=
    List.nodup_range.map (rung_injective stem round)
  have found : ((List.range rungs).map (rung stem round))[round]? =
      some (rung stem round round) := by
    rw [List.getElem?_map, List.getElem?_range below, Option.map_some]
  rw [climbed, List.map_cons, renumber_cons_of_nodup distinct found, rung_self,
    numbered_withOnes_one, climbed, List.map_cons, rung_self]
  congr 1
  apply List.ext_getElem
  · rw [List.length_set, List.length_map, List.length_map]
  · intro place _ _
    rw [List.getElem_set, List.getElem_map, List.getElem_map, List.getElem_range]
    split_ifs with left
    · rw [← left, rung_succ_self]
    · rw [rung_succ_of_ne stem left]

theorem iterate_renumber_climbed (stem : String) {rungs round : Nat} (reached : round ≤ rungs) :
    renumber^[round] (climbed stem rungs 0) = climbed stem rungs round := by
  induction round with
  | zero => rfl
  | succ round ih =>
      rw [Function.iterate_succ_apply', ih (Nat.le_of_succ_le reached),
        renumber_climbed stem reached]

/-- The names of a ladder are distinct exactly when the first name has passed all rungs. -/
theorem nodup_climbed_iff (stem : String) (rungs round : Nat) :
    (climbed stem rungs round).Nodup ↔ rungs ≤ round := by
  rw [climbed, List.nodup_map_iff (rung_injective stem round), List.nodup_cons, List.mem_range]
  simp [List.nodup_range]

/-! ## Limits -/

theorem climbed_zero (stem : String) (count : Nat) :
    climbed stem (count - 1) 0 = ladder stem count := by
  have bottom : withOnes stem 0 = stem := String.append_empty
  rw [climbed, List.map_cons, rung_self, bottom, ladder]
  rfl

/-- Names in groups of one. -/
def singles (names : List String) : List (List String) :=
  names.map fun name => [name]

@[simp]
theorem flatten_singles (names : List String) : (singles names).flatten = names := by
  rw [singles, ← List.flatMap_def, List.flatMap_singleton']

/-- Groups of one name each are cut into groups of one name each. -/
theorem regroup_singles {names others : List String} (sameLength : others.length = names.length) :
    regroup (singles names) others = singles others := by
  have cut : CutLike (singles names) (singles others) others := by
    refine ⟨?_, flatten_singles others⟩
    simp [singles, Function.comp_def, sameLength]
  rw [← flatten_singles names] at sameLength
  exact ((cutLike_iff sameLength).mp cut).symm

theorem length_climbed (stem : String) (rungs round : Nat) :
    (climbed stem rungs round).length = rungs + 1 := by
  rw [climbed, List.length_map, List.length_cons, List.length_range]

/-- The names after a round that the first name of a ladder spends on a rung. -/
theorem regroup_ladder (stem : String) {count round : Nat} (reached : round ≤ count - 1) :
    regroup (singles (ladder stem count)) (renumber^[round] (singles (ladder stem count)).flatten) =
      singles (climbed stem (count - 1) round) := by
  rw [flatten_singles, ← climbed_zero, iterate_renumber_climbed stem reached]
  apply regroup_singles
  rw [length_climbed, length_climbed]

theorem nodup_iterate_ladder_iff (stem : String) {count round : Nat} (reached : round ≤ count - 1) :
    (renumber^[round] (singles (ladder stem count)).flatten).Nodup ↔ count - 1 ≤ round := by
  rw [flatten_singles, ← climbed_zero, iterate_renumber_climbed stem reached, nodup_climbed_iff]

/--
A ladder of names needs as many passes as it has names.  Every smaller limit fails and shows how far
the first name has come; every other limit gives the first name as many ones as there are rungs, and
a two to every rung.
-/
theorem distinctWithin_ladder (stem : String) {count : Nat} (several : 2 ≤ count) :
    (ladder stem count).length = count ∧
      (∀ limit : Int, limit < count →
        distinctWithin limit (singles (ladder stem count)) =
          .error ⟨limit, singles (climbed stem (count - 1) limit.toNat)⟩) ∧
      ∀ limit : Int, count ≤ limit →
        distinctWithin limit (singles (ladder stem count)) =
          .ok (singles (climbed stem (count - 1) (count - 1))) := by
  refine ⟨?_, ?_, ?_⟩
  · rw [← climbed_zero, length_climbed]
    omega
  · intro limit tooSmall
    rw [← regroup_ladder stem (by omega), distinctWithin_eq_error_iff]
    refine ⟨?_, rfl⟩
    intro round inside
    rw [nodup_iterate_ladder_iff stem (by omega)]
    omega
  · intro limit enough
    have last := (nodup_iterate_ladder_iff stem (Nat.le_refl (count - 1))).mpr (Nat.le_refl _)
    rw [← regroup_ladder stem (Nat.le_refl (count - 1))]
    exact distinctWithin_of_nodup_iterate last (by omega)

/-- Four passes are too few for five names, and five are enough. -/
theorem distinctWithin_ladder_five :
    2 ≤ 5 ∧
      distinctWithin 4 [["v"], ["v"], ["v1"], ["v11"], ["v111"]] =
        .error ⟨4, [["v1111"], ["v2"], ["v12"], ["v112"], ["v1112"]]⟩ ∧
      distinctWithin 5 [["v"], ["v"], ["v1"], ["v11"], ["v111"]] =
        .ok [["v1111"], ["v2"], ["v12"], ["v112"], ["v1112"]] := by
  have several : 2 ≤ 5 := by decide
  obtain ⟨-, fails, succeeds⟩ := distinctWithin_ladder "v" several
  exact ⟨several, fails 4 (by decide), succeeds 5 (by decide)⟩

end FuncAdapter.Naming
