import FuncAdapter.Proofs.Text.LetterCase

/-!
# Lowering twice

Whatever a simple lower-case form changes, it makes small: each run of capitals is shifted into one
range of small letters, which is seen from the ends of the two ranges alone.  So a character of a
lower-case form that is not small was there before and stays as it is, however often and between
whatever neighbours it is lowered.
-/

namespace FuncAdapter.Text

/-! ## Ranges inside ranges -/

namespace CodeRange

variable {inner outer range : CodeRange} {code : Nat}

/-- The range at a distance from another one. -/
def shifted (range : CodeRange) (distance : Int) : CodeRange :=
  ⟨(range.first + distance).toNat, (range.last + distance).toNat, range.step⟩

theorem contains_shifted {distance : Int} (start : 0 ≤ range.first + distance)
    (contained : range.contains code = true) :
    (range.shifted distance).contains (code + distance).toNat = true := by
  rw [contains_iff] at contained ⊢
  obtain ⟨least, most, steps⟩ := contained
  have same :
      (code + distance).toNat - (range.first + distance).toNat = code - range.first := by
    omega
  refine ⟨?_, ?_, ?_⟩
  · exact Int.toNat_le_toNat (by omega)
  · exact Int.toNat_le_toNat (by omega)
  · exact same ▸ steps

/-- Whether a range lies in another one, seen from its ends and its step. -/
def within (inner outer : CodeRange) : Bool :=
  decide (inner.last ≤ outer.last) && decide (outer.first ≤ inner.first) &&
    (inner.first - outer.first) % outer.step == 0 &&
      (inner.first == inner.last || inner.step % outer.step == 0)

theorem contains_of_within (lies : inner.within outer = true)
    (contained : inner.contains code = true) : outer.contains code = true := by
  simp only [within, Bool.and_eq_true, Bool.or_eq_true, decide_eq_true_iff, beq_iff_eq,
    ← Nat.dvd_iff_mod_eq_zero] at lies
  rw [contains_iff] at contained ⊢
  obtain ⟨⟨⟨lasts, firsts⟩, offset⟩, steps⟩ := lies
  obtain ⟨least, most, step⟩ := contained
  have inside : outer.step ∣ code - inner.first := by
    rcases steps with single | coarser
    · have alone : code - inner.first = 0 := by omega
      rw [alone]
      exact Nat.dvd_zero _
    · exact Nat.dvd_trans coarser step
  have way : code - outer.first = (code - inner.first) + (inner.first - outer.first) := by omega
  refine ⟨by omega, by omega, ?_⟩
  rw [way]
  exact Nat.dvd_add inside offset

end CodeRange

/-! ## Simple forms -/

/-- Every run of capitals is shifted into one range of small letters. -/
theorem lowerShifts_within :
    ∀ shift ∈ lowerShifts, 0 ≤ shift.source.first + shift.distance ∧
      ∃ range ∈ lowercaseRanges, (shift.source.shifted shift.distance).within range = true := by
  decide +kernel

/-- No range of small letters meets the codes that stand for no character. -/
theorem lowercaseRanges_valid :
    ∀ range ∈ lowercaseRanges,
      range.last < 0xd800 ∨ 0xdfff < range.first ∧ range.last < 0x110000 := by
  decide +kernel

theorem isLowercase_ofNat {range : CodeRange} (member : range ∈ lowercaseRanges) {code : Nat}
    (contained : range.contains code = true) : isLowercase (Char.ofNat code) = true := by
  have valid : code.isValidChar := by
    obtain ⟨least, most, -⟩ := CodeRange.contains_iff.mp contained
    rcases lowercaseRanges_valid range member with low | ⟨high, bounded⟩
    · exact Or.inl (by omega)
    · exact Or.inr ⟨by omega, by omega⟩
  have made : (Char.ofNat code).toNat = code := by
    rw [Char.ofNat, dif_pos valid]
    rfl
  rw [isLowercase, CodeRange.cover, List.any_eq_true, made]
  exact ⟨range, member, contained⟩

/-- What a simple lower-case form changes, it makes small. -/
theorem lowerSimple_eq_self_or_small (character : Char) :
    lowerSimple character = character ∨ isLowercase (lowerSimple character) = true := by
  rw [lowerSimple]
  split
  · next shift found =>
      have contained : shift.source.contains character.toNat = true := by
        simpa using List.find?_some found
      obtain ⟨start, range, member, lies⟩ :=
        lowerShifts_within shift (List.mem_of_find?_eq_some found)
      exact Or.inr (isLowercase_ofNat member
        (CodeRange.contains_of_within lies (CodeRange.contains_shifted start contained)))
  · exact Or.inl rfl

/-! ## Characters that lowering keeps -/

/-- A character that lowering keeps, whatever stands around it. -/
def Steady (character : Char) : Prop :=
  character ≠ 'Σ' ∧ character ≠ 'İ' ∧ lowerSimple character = character

instance (character : Char) : Decidable (Steady character) :=
  inferInstanceAs (Decidable (_ ∧ _ ∧ _))

theorem Steady.lowerAt {character : Char} (steady : Steady character) (before after : List Char) :
    lowerAt before character after = [character] := by
  rw [Text.lowerAt, if_neg steady.1, if_neg steady.2.1, steady.2.2]

theorem lowerFrom_of_steady {characters : List Char} (before : List Char)
    (steady : ∀ character ∈ characters, Steady character) :
    lowerFrom before characters = characters := by
  induction characters generalizing before with
  | nil => rfl
  | cons character after ih =>
      obtain ⟨first, others⟩ := List.forall_mem_cons.mp steady
      rw [lowerFrom, first.lowerAt, ih _ others, List.singleton_append]

/-- Lowering leaves out no character. -/
theorem lowerCharacters_ne_nil {characters : List Char} (nonempty : characters ≠ []) :
    lowerCharacters characters ≠ [] := by
  obtain ⟨character, after, rfl⟩ := List.exists_cons_of_ne_nil nonempty
  rw [lowerCharacters, lowerFrom, lowerAt]
  split
  · split <;> simp
  · split <;> simp

/-- What lowering leaves without making it small, it leaves for good. -/
theorem steady_of_mem_lowerAt {before after : List Char} {character lowered : Char}
    (member : lowered ∈ lowerAt before character after) (notSmall : isLowercase lowered = false) :
    Steady lowered := by
  have smallSigmas : isLowercase 'ς' = true ∧ isLowercase 'σ' = true := by decide +kernel
  have smallDotted : isLowercase 'i' = true ∧ Steady '\u0307' := by decide +kernel
  unfold lowerAt at member
  split at member
  · split at member
    · rw [List.mem_singleton.mp member, smallSigmas.1] at notSmall
      cases notSmall
    · rw [List.mem_singleton.mp member, smallSigmas.2] at notSmall
      cases notSmall
  · next notSigma =>
      split at member
      · rw [List.mem_cons, List.mem_singleton] at member
        rcases member with rfl | rfl
        · rw [smallDotted.1] at notSmall
          cases notSmall
        · exact smallDotted.2
      · next notDotted =>
          cases List.mem_singleton.mp member
          rcases lowerSimple_eq_self_or_small character with same | small
          · rw [same]
            exact ⟨notSigma, notDotted, same⟩
          · rw [small] at notSmall
            cases notSmall

theorem steady_of_mem_lowerFrom {before characters : List Char} {lowered : Char}
    (member : lowered ∈ lowerFrom before characters) (notSmall : isLowercase lowered = false) :
    Steady lowered := by
  induction characters generalizing before with
  | nil => cases member
  | cons character after ih =>
      rcases List.mem_append.mp member with here | later
      · exact steady_of_mem_lowerAt here notSmall
      · exact ih later

end FuncAdapter.Text
