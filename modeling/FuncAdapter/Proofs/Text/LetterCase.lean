import FuncAdapter.Text.LetterCase

/-!
# Lower-casing to plain letters

Which characters become a given small letter of the Latin alphabet.  The letter k is left out: its
capital is not the only other character with that lower-case form, because the sign for kelvin has
it too.

Among the characters of ASCII there are no such surprises, and lower-casing goes letter by letter.
-/

namespace FuncAdapter.Text

/-- A character other than the null character has the code that it was made from. -/
theorem eq_toNat_of_ofNat_eq {code : Nat} {character : Char}
    (made : Char.ofNat code = character) (notNull : character.toNat ≠ 0) :
    code = character.toNat := by
  subst made
  by_cases valid : code.isValidChar
  · rw [Char.ofNat, dif_pos valid]
    rfl
  · rw [Char.ofNat, dif_neg valid] at notNull
    exact absurd rfl notNull

/-- A shift that ends at a small letter other than k is the shift of the capital letters. -/
theorem distance_eq_of_shift_to_letter :
    ∀ offset < 26, offset ≠ 10 → ∀ shift ∈ lowerShifts,
      shift.source.contains (((0x61 + offset : Nat) : Int) - shift.distance).toNat = true →
        shift.distance = 32 := by
  decide +kernel

/-- Only the letter itself and its capital have a small letter other than k as lower-case form. -/
theorem eq_or_capital_of_lowerSimple {character letter : Char}
    (low : 0x61 ≤ letter.toNat) (high : letter.toNat ≤ 0x7a) (notK : letter.toNat ≠ 0x6b)
    (lowered : lowerSimple character = letter) :
    character = letter ∨ character.toNat + 32 = letter.toNat := by
  rw [lowerSimple] at lowered
  split at lowered
  · next shift found =>
      have member : shift ∈ lowerShifts := List.mem_of_find?_eq_some found
      have contained : shift.source.contains character.toNat = true := by
        simpa using List.find?_some found
      have code := eq_toNat_of_ofNat_eq lowered (by omega)
      have source :
          character.toNat =
            (((0x61 + (letter.toNat - 0x61) : Nat) : Int) - shift.distance).toNat := by
        omega
      rw [source] at contained
      have capitals : shift.distance = 32 :=
        distance_eq_of_shift_to_letter (letter.toNat - 0x61) (by omega) (by omega) shift member
          contained
      right
      omega
  · exact Or.inl lowered

/-- Whether a character cannot come from a capital sigma or from a capital dotted I. -/
def isPlain (character : Char) : Bool :=
  character ≠ 'ς' ∧ character ≠ 'σ' ∧ character ≠ '\u0307'

/-- A plain lower-case form was lowered character by character. -/
theorem map_lowerSimple_of_lowerFrom {before characters lowered : List Char}
    (plain : ∀ character ∈ lowered, isPlain character = true)
    (result : lowerFrom before characters = lowered) :
    characters.map lowerSimple = lowered := by
  induction characters generalizing before lowered with
  | nil => exact result
  | cons character after ih =>
      subst result
      rw [lowerFrom, lowerAt] at plain ⊢
      split at plain
      · -- Neither form of the sigma is plain.
        split at plain
        · exact absurd (plain 'ς' (by simp)) (by decide)
        · exact absurd (plain 'σ' (by simp)) (by decide)
      · next notSigma =>
          split at plain
          · exact absurd (plain '\u0307' (by simp)) (by decide)
          · next notDotted =>
              rw [if_neg notSigma, if_neg notDotted, List.map_cons,
                List.singleton_append]
              congr 1
              exact ih (fun other member => plain other (List.mem_append_right _ member)) rfl

/-! ## ASCII -/

/-- A character of ASCII. -/
def IsAscii (character : Char) : Prop :=
  character.toNat < 0x80

/-- What holds of the first 128 codes holds of the characters of ASCII. -/
@[elab_as_elim]
theorem IsAscii.of_codes {motive : Char → Prop} {character : Char} (ascii : IsAscii character)
    (codes : ∀ code < 0x80, motive (Char.ofNat code)) :
    motive character := by
  rw [← Char.ofNat_toNat character]
  exact codes character.toNat ascii

instance (character : Char) : Decidable (IsAscii character) :=
  inferInstanceAs (Decidable (_ < _))

theorem IsAscii.of_le {character last : Char} (ascii : IsAscii last)
    (below : character.val ≤ last.val) :
    IsAscii character :=
  Nat.lt_of_le_of_lt (UInt32.le_iff_toNat_le.mp below) ascii

theorem isAscii_of_isLower {character : Char} (small : character.isLower = true) :
    IsAscii character := by
  have bounds : 'a'.val ≤ character.val ∧ character.val ≤ 'z'.val :=
    ((Bool.and_eq_true _ _).mp small).imp of_decide_eq_true of_decide_eq_true
  exact (show IsAscii 'z' by decide).of_le bounds.2

/-- Letters and digits are characters of ASCII. -/
theorem isAscii_of_isAlphanum {character : Char} (alphanum : character.isAlphanum = true) :
    IsAscii character := by
  rcases (Bool.or_eq_true _ _).mp alphanum with letter | digit
  · rcases (Bool.or_eq_true _ _).mp letter with capital | small
    · have bounds : 'A'.val ≤ character.val ∧ character.val ≤ 'Z'.val :=
        of_decide_eq_true capital
      exact (show IsAscii 'Z' by decide).of_le bounds.2
    · exact isAscii_of_isLower small
  · have bounds : '0'.val ≤ character.val ∧ character.val ≤ '9'.val :=
      ((Bool.and_eq_true _ _).mp digit).imp of_decide_eq_true of_decide_eq_true
    exact (show IsAscii '9' by decide).of_le bounds.2

/-- Only the first range of small letters reaches into ASCII. -/
theorem lowercaseRanges_beyond :
    ∀ range ∈ lowercaseRanges, range = ⟨0x61, 0x7a, 1⟩ ∨ 0x80 ≤ range.first := by
  decide +kernel

/-- Only the first range of capital letters reaches into ASCII. -/
theorem lowerShifts_beyond :
    ∀ shift ∈ lowerShifts, shift = ⟨⟨0x41, 0x5a, 1⟩, 32⟩ ∨ 0x80 ≤ shift.source.first := by
  decide +kernel

theorem CodeRange.contains_iff {range : CodeRange} {code : Nat} :
    range.contains code = true ↔
      range.first ≤ code ∧ code ≤ range.last ∧ range.step ∣ code - range.first := by
  rw [contains, Bool.and_eq_true, Bool.and_eq_true, decide_eq_true_iff, decide_eq_true_iff,
    beq_iff_eq, ← Nat.dvd_iff_mod_eq_zero, and_assoc]

theorem IsAscii.isLowercase_eq {character : Char} (ascii : IsAscii character) :
    isLowercase character = character.isLower := by
  have small : character.isLower = CodeRange.contains ⟨0x61, 0x7a, 1⟩ character.toNat :=
    ascii.of_codes (by decide +kernel)
  rw [Bool.eq_iff_iff, small, isLowercase, CodeRange.cover, List.any_eq_true]
  constructor
  · rintro ⟨range, member, contained⟩
    rcases lowercaseRanges_beyond range member with rfl | beyond
    · exact contained
    · have least := (CodeRange.contains_iff.mp contained).1
      exact absurd ascii (Nat.not_lt.mpr (Nat.le_trans beyond least))
  · intro contained
    exact ⟨_, List.mem_cons_self, contained⟩

theorem IsAscii.lowerSimple_eq {character : Char} (ascii : IsAscii character) :
    lowerSimple character = character.toLower := by
  have lowered :
      character.toLower =
        if CodeRange.contains ⟨0x41, 0x5a, 1⟩ character.toNat then
          Char.ofNat (character.toNat + 32)
        else
          character :=
    ascii.of_codes (by decide +kernel)
  rw [lowerSimple, lowered]
  split
  · next shift found =>
      have contained : shift.source.contains character.toNat = true := by
        simpa using List.find?_some found
      rcases lowerShifts_beyond shift (List.mem_of_find?_eq_some found) with rfl | beyond
      · rw [if_pos contained]
        rfl
      · have least := (CodeRange.contains_iff.mp contained).1
        exact absurd ascii (Nat.not_lt.mpr (Nat.le_trans beyond least))
  · next absent =>
      have noCapital := List.find?_eq_none.mp absent ⟨⟨0x41, 0x5a, 1⟩, 32⟩ List.mem_cons_self
      rw [if_neg noCapital]

theorem lowerFrom_of_ascii {characters : List Char} (before : List Char)
    (ascii : ∀ character ∈ characters, IsAscii character) :
    lowerFrom before characters = characters.map Char.toLower := by
  induction characters generalizing before with
  | nil => rfl
  | cons character after ih =>
      have first : IsAscii character := ascii character List.mem_cons_self
      have single : character ≠ 'Σ' ∧ character ≠ 'İ' := first.of_codes (by decide +kernel)
      rw [lowerFrom, lowerAt, if_neg single.1, if_neg single.2, first.lowerSimple_eq,
        ih _ fun other member => ascii other (List.mem_cons_of_mem _ member)]
      rfl

/-- Characters of ASCII are lowered one by one. -/
theorem lowerCharacters_of_ascii {characters : List Char}
    (ascii : ∀ character ∈ characters, IsAscii character) :
    lowerCharacters characters = characters.map Char.toLower :=
  lowerFrom_of_ascii [] ascii

end FuncAdapter.Text
