import FuncAdapter.Proofs.Naming.Convergence
import Mathlib.Data.List.Forall2

/-!
# What distinct names look like

Names that were made distinct stand where the old ones stood, in groups of the same sizes.  Each is
the old name with numerals behind it, one for every round that numbered it.

A numeral counts occurrences, so it lies between one and the number of names.  One round adds at
most one numeral to a place; a run of rounds puts the numerals of its rounds one behind the other.
-/

namespace FuncAdapter.Naming

/-- A name followed by the decimal numerals of numbers between one and a bound. -/
def NumberedWithin (bound : Nat) (name target : String) : Prop :=
  ∃ numbers : List Nat,
    (∀ number ∈ numbers, 1 ≤ number ∧ number ≤ bound) ∧
      target = name ++ String.join (numbers.map Nat.repr)

namespace NumberedWithin

theorem refl (bound : Nat) (name : String) : NumberedWithin bound name name := by
  refine ⟨[], by simp, ?_⟩
  rw [List.map_nil, String.join_nil, String.append_empty]

theorem trans {bound : Nat} {first second third : String}
    (early : NumberedWithin bound first second) (late : NumberedWithin bound second third) :
    NumberedWithin bound first third := by
  obtain ⟨numbers, bounded, rfl⟩ := early
  obtain ⟨more, moreBounded, rfl⟩ := late
  refine ⟨numbers ++ more, ?_, ?_⟩
  · intro number member
    rcases List.mem_append.mp member with inNumbers | inMore
    · exact bounded number inNumbers
    · exact moreBounded number inMore
  · rw [List.map_append, String.join_append, String.append_assoc]

theorem numbered {bound number : Nat} (name : String)
    (positive : 1 ≤ number) (inside : number ≤ bound) :
    NumberedWithin bound name (Pass.numbered name number) := by
  refine ⟨[number], ?_, ?_⟩
  · intro other member
    rw [List.mem_singleton] at member
    subst member
    exact ⟨positive, inside⟩
  · rw [List.map_singleton, String.join_cons, String.join_nil, String.append_empty, Pass.numbered]

end NumberedWithin

/-! ## Rounds -/

/-- The number of an occurrence is at most the number of all names. -/
theorem occurrence_le_length {names : List String} {place : Nat} {name : String}
    (found : names[place]? = some name) :
    occurrence names place name ≤ names.length := by
  calc
    occurrence names place name = (names.take place).count name + 1 := rfl
    _ ≤ names.count name := count_take_lt_count found
    _ ≤ names.length := List.count_le_length

/-- A round puts at most one numeral behind the name of a place. -/
theorem numberedWithin_renumber {names : List String} {place : Nat} {old new : String}
    (before : names[place]? = some old) (after : (renumber names)[place]? = some new) :
    NumberedWithin names.length old new := by
  by_cases repeated : 1 < names.count old
  · rw [getElem?_renumber_of_repeated before repeated] at after
    cases after
    exact .numbered old (Nat.le_add_left 1 _) (occurrence_le_length before)
  · rw [getElem?_renumber_of_single before repeated] at after
    cases after
    exact .refl names.length old

/-- Rounds put nothing but numerals behind the name of a place. -/
theorem numberedWithin_iterate (round : Nat) {names : List String} {place : Nat}
    {old new : String} (before : names[place]? = some old)
    (after : (renumber^[round] names)[place]? = some new) :
    NumberedWithin names.length old new := by
  induction round generalizing names old with
  | zero =>
      rw [Function.iterate_zero_apply, before] at after
      rw [Option.some.inj after]
      exact .refl names.length new
  | succ round ih =>
      rw [Function.iterate_succ_apply] at after
      obtain ⟨inside, -⟩ := List.getElem?_eq_some_iff.mp before
      have insideNext : place < (renumber names).length := by rwa [length_renumber]
      have between := List.getElem?_eq_getElem insideNext
      have later := ih between after
      rw [length_renumber] at later
      exact (numberedWithin_renumber before between).trans later

theorem forall₂_numberedWithin_iterate (round : Nat) (names : List String) :
    List.Forall₂ (NumberedWithin names.length) names (renumber^[round] names) := by
  rw [List.forall₂_iff_get]
  refine ⟨(length_iterate_renumber round names).symm, ?_⟩
  intro place before after
  apply numberedWithin_iterate round
  · exact List.getElem?_eq_getElem before
  · exact List.getElem?_eq_getElem after

/-! ## Groups -/

/-- What relates names place by place relates them group by group. -/
theorem forall₂_regroup {relation : String → String → Prop} {groups : List (List String)}
    {names : List String} (related : List.Forall₂ relation groups.flatten names) :
    List.Forall₂ (List.Forall₂ relation) groups (regroup groups names) := by
  induction groups generalizing names with
  | nil => exact .nil
  | cons group groups ih =>
      rw [List.flatten_cons] at related
      have front := List.forall₂_take group.length related
      have back := List.forall₂_drop group.length related
      rw [List.take_left] at front
      rw [List.drop_left] at back
      exact .cons front (ih back)

/--
Whenever names are made distinct, within any limit or the one used when none is given, there are as
many groups as before with as many names in each, no name occurs twice in all groups together, and
every name is the old one at its place with numerals between one and the number of names behind it.
-/
theorem distinct_and_numbered_of_distinctWithin {groups result : List (List String)}
    (succeeds :
      (∃ limit, distinctWithin limit groups = .ok result) ∨ distinctNames groups = .ok result) :
    result.map List.length = groups.map List.length ∧
      result.flatten.Nodup ∧
      List.Forall₂ (List.Forall₂ (NumberedWithin groups.flatten.length)) groups result := by
  have limited : ∃ limit, distinctWithin limit groups = .ok result := by
    rcases succeeds with limited | unlimited
    · exact limited
    · exact ⟨_, unlimited⟩
  obtain ⟨limit, succeeds⟩ := limited
  obtain ⟨round, -, rfl, distinct, -⟩ := distinctWithin_eq_ok_iff.mp succeeds
  have sameLength := length_iterate_renumber round groups.flatten
  refine ⟨map_length_regroup groups _ sameLength, ?_, ?_⟩
  · rw [flatten_regroup groups _ sameLength]
    exact distinct
  · exact forall₂_regroup (forall₂_numberedWithin_iterate round groups.flatten)

/-- The name that is numbered first runs into the name of another group and is numbered again. -/
theorem distinct_and_numbered_of_distinctWithin_collision :
    distinctWithin 3 [["v", "w"], [], ["v", "v1"]] = .ok [["v11", "w"], [], ["v2", "v12"]] ∧
      ["v11", "w", "v2", "v12"].Nodup ∧
      List.Forall₂ (List.Forall₂ (NumberedWithin 4))
        [["v", "w"], [], ["v", "v1"]] [["v11", "w"], [], ["v2", "v12"]] := by
  have succeeds : distinctWithin 3 [["v", "w"], [], ["v", "v1"]] =
      .ok [["v11", "w"], [], ["v2", "v12"]] := by
    decide +kernel
  obtain ⟨-, distinct, numbered⟩ :=
    distinct_and_numbered_of_distinctWithin (.inl ⟨3, succeeds⟩)
  exact ⟨succeeds, distinct, numbered⟩

end FuncAdapter.Naming
