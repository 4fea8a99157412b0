import FuncAdapter.Proofs.Naming.Convergence

/-!
# Names that numbering does not produce

Numbering makes a name only by adding digits to a repeated one.  A name into which no repeated name
grows is therefore among the names after any number of rounds only where it was at the beginning,
and only if it occurred there once: a second occurrence gives both of them numbers in the first
round.

Names that do not end with a digit are of this kind whatever the other names are.
-/

namespace FuncAdapter.Naming

/-- No repeated name grows into this name, apart from the name itself. -/
def Unreached (names : List String) (name : String) : Prop :=
  ∀ stem, 1 < names.count stem → Grows stem name → stem = name

theorem numbered_ne (name : String) (number : Nat) : Pass.numbered name number ≠ name := by
  intro same
  have noDigits := congrArg String.toList same
  rw [Pass.numbered, String.toList_append, List.append_right_eq_self, Nat.toList_repr] at noDigits
  exact Nat.toDigits_ne_nil noDigits

theorem Grows.antisymm {first second : String}
    (forth : Grows first second) (back : Grows second first) :
    first = second := by
  have sameLength : first.toList.length = second.toList.length :=
    Nat.le_antisymm forth.begins.length_le back.begins.length_le
  exact String.toList_inj.mp (forth.begins.eq_of_length sameLength)

/-- A round repeats no name that would grow into an unreached one. -/
theorem Unreached.renumber {names : List String} {name : String}
    (unreached : Unreached names name) :
    Unreached (renumber names) name := by
  intro stem repeated grows
  obtain ⟨first, growsFirst, repeatedFirst⟩ := exists_repeated_of_renumber repeated
  have same : first = name := unreached first repeatedFirst (growsFirst.trans grows)
  subst same
  exact grows.antisymm growsFirst

/-- A round leaves an unreached name exactly where it was not repeated. -/
theorem Unreached.getElem?_renumber_iff {names : List String} {name : String}
    (unreached : Unreached names name) (place : Nat) :
    (Naming.renumber names)[place]? = some name ↔
      names[place]? = some name ∧ ¬ 1 < names.count name := by
  constructor
  · intro found
    rw [getElem?_renumber, Option.map_eq_some_iff] at found
    obtain ⟨old, present, new⟩ := found
    split at new
    · next repeated =>
        have grows : Grows old name := new ▸ grows_numbered old _
        have same : old = name := unreached old repeated grows
        subst same
        exact absurd new (numbered_ne old _)
    · next single =>
        subst new
        exact ⟨present, single⟩
  · rintro ⟨present, single⟩
    exact getElem?_renumber_of_single present single

theorem count_eq_one_iff {names : List String} {name : String} :
    names.count name = 1 ↔
      (∃ place : Nat, names[place]? = some name) ∧ ¬ 1 < names.count name := by
  rw [← List.mem_iff_getElem?, ← List.count_pos_iff]
  omega

/-- A round neither makes nor takes a single occurrence of an unreached name. -/
theorem Unreached.count_renumber_eq_one_iff {names : List String} {name : String}
    (unreached : Unreached names name) :
    (Naming.renumber names).count name = 1 ↔ names.count name = 1 := by
  constructor
  · intro single
    obtain ⟨⟨place, found⟩, -⟩ := count_eq_one_iff.mp single
    obtain ⟨present, once⟩ := (unreached.getElem?_renumber_iff place).mp found
    exact count_eq_one_iff.mpr ⟨⟨place, present⟩, once⟩
  · intro single
    obtain ⟨⟨place, present⟩, once⟩ := count_eq_one_iff.mp single
    have found := (unreached.getElem?_renumber_iff place).mpr ⟨present, once⟩
    refine count_eq_one_iff.mpr ⟨⟨place, found⟩, ?_⟩
    intro repeated
    obtain ⟨first, second, different, foundFirst, foundSecond⟩ := one_lt_count_iff.mp repeated
    have presentFirst := (unreached.getElem?_renumber_iff first).mp foundFirst
    have presentSecond := (unreached.getElem?_renumber_iff second).mp foundSecond
    exact once
      (one_lt_count_iff.mpr ⟨first, second, different, presentFirst.1, presentSecond.1⟩)

theorem Unreached.count_iterate_eq_one_iff {names : List String} {name : String}
    (unreached : Unreached names name) (round : Nat) :
    (Naming.renumber^[round] names).count name = 1 ↔ names.count name = 1 := by
  induction round generalizing names with
  | zero => rfl
  | succ round ih =>
      rw [Function.iterate_succ_apply, ih unreached.renumber,
        unreached.count_renumber_eq_one_iff]

/-- Rounds leave a single name to which no numbers lead where it is. -/
theorem Unreached.getElem?_iterate {names : List String} {name : String}
    (unreached : Unreached names name) (single : names.count name = 1) (round : Nat)
    {place : Nat} (found : names[place]? = some name) :
    (Naming.renumber^[round] names)[place]? = some name := by
  induction round generalizing names with
  | zero => exact found
  | succ round ih =>
      rw [Function.iterate_succ_apply]
      apply ih unreached.renumber
      · exact unreached.count_renumber_eq_one_iff.mpr single
      · exact (unreached.getElem?_renumber_iff place).mpr ⟨found, single.le.not_gt⟩

/-- An unreached name is among the distinct names in the end exactly if it occurred once. -/
theorem Unreached.mem_iterate_iff {names : List String} {name : String}
    (unreached : Unreached names name) {round : Nat}
    (distinct : (Naming.renumber^[round] names).Nodup) :
    name ∈ Naming.renumber^[round] names ↔ names.count name = 1 := by
  rw [← unreached.count_iterate_eq_one_iff round]
  constructor
  · intro member
    exact List.count_eq_one_of_mem distinct member
  · intro single
    exact List.count_pos_iff.mp (by omega)

/-! ## Names without a digit at the end -/

/-- No name with a number is this name. -/
def Undigited (name : String) : Prop :=
  ∀ other number, Pass.numbered other number ≠ name

/-- A name whose last character is not a digit is not numbered. -/
theorem undigited_of_getLast? {name : String} {last : Char}
    (ends : name.toList.getLast? = some last) (noDigit : last.isDigit = false) :
    Undigited name := by
  intro other number same
  subst same
  have digits : number.repr.toList ≠ [] := by
    rw [Nat.toList_repr]
    exact Nat.toDigits_ne_nil
  rw [Pass.numbered, String.toList_append, List.getLast?_append_of_ne_nil _ digits] at ends
  have member : last ∈ Nat.toDigits 10 number := by
    rw [← Nat.toList_repr]
    exact List.mem_of_getLast? ends
  have digit := Nat.isDigit_of_mem_toDigits (by decide) (by decide) member
  rw [noDigit] at digit
  exact Bool.false_ne_true digit

/-- Every digit is a number. -/
theorem exists_repr_of_isDigit {digit : Char} (isDigit : digit.isDigit = true) :
    ∃ number : Nat, number.repr.toList = [digit] := by
  have bounds : 48 ≤ digit.toNat ∧ digit.toNat ≤ 57 := by
    simpa [Char.isDigit, UInt32.le_iff_toNat_le] using isDigit
  have every : ∀ offset < 10, (Nat.repr offset).toList = [Char.ofNat (48 + offset)] := by decide
  refine ⟨digit.toNat - 48, ?_⟩
  rw [every _ (by omega), show 48 + (digit.toNat - 48) = digit.toNat by omega,
    Char.ofNat_toNat]

theorem Undigited.unreached {name : String} (undigited : Undigited name) (names : List String) :
    Unreached names name := by
  rintro stem - ⟨digits, areDigits, same⟩
  rcases List.eq_nil_or_concat digits with rfl | ⟨init, digit, rfl⟩
  · exact (String.toList_inj.mp (same.trans (List.append_nil _))).symm
  · have isDigit : digit.isDigit = true := areDigits digit (by simp)
    obtain ⟨number, spelled⟩ := exists_repr_of_isDigit isDigit
    have numbered : Pass.numbered (String.ofList (stem.toList ++ init)) number = name := by
      rw [← String.toList_inj, Pass.numbered, String.toList_append, String.toList_ofList,
        spelled, same, List.concat_eq_append, List.append_assoc]
    exact absurd numbered (undigited _ _)

/-- Such a name is among the distinct names in the end exactly if it occurred once. -/
theorem Undigited.mem_iterate_iff {name : String} (undigited : Undigited name)
    {round : Nat} {names : List String} (distinct : (renumber^[round] names).Nodup) :
    name ∈ renumber^[round] names ↔ names.count name = 1 :=
  (undigited.unreached names).mem_iterate_iff distinct

/-! ## Properties that numbers keep -/

section Closed

variable {good : String → Prop}

/-- A property that numbering keeps for each name is kept by a round. -/
theorem forall_mem_renumber (closed : ∀ name number, good name → good (Pass.numbered name number))
    {names : List String} (every : ∀ name ∈ names, good name) :
    ∀ name ∈ renumber names, good name := by
  intro name member
  obtain ⟨place, found⟩ := List.mem_iff_getElem?.mp member
  rw [getElem?_renumber, Option.map_eq_some_iff] at found
  obtain ⟨old, present, rfl⟩ := found
  have goodOld : good old := every old (List.mem_of_getElem? present)
  split
  · exact closed old _ goodOld
  · exact goodOld

theorem forall_mem_iterate (closed : ∀ name number, good name → good (Pass.numbered name number))
    (round : Nat) {names : List String} (every : ∀ name ∈ names, good name) :
    ∀ name ∈ renumber^[round] names, good name := by
  induction round generalizing names with
  | zero => exact every
  | succ round ih => exact ih (forall_mem_renumber closed every)

end Closed

end FuncAdapter.Naming
