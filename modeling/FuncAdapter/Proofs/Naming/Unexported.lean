import FuncAdapter.Proofs.Naming.TypeName
import FuncAdapter.Proofs.Text.Lowering

/-!
# Names that are unexported already

How far a name is lowered depends on the place of its first small letter only.  Lowering makes small
letters, moves them and may lengthen what is in front of them, so the first small letter of the
unexported form is in general another one.  Still there is nothing left to lower: what stands in
front of it are characters that lowering keeps.
-/

namespace FuncAdapter.Naming

/-! ## How names begin -/

/-- How a name begins: what stands in front of its first small letter, if it has one. -/
inductive Beginning : List Char → Prop where
  | capitals {characters : List Char}
      (noSmall : ∀ character ∈ characters, Text.isLowercase character = false) :
      Beginning characters
  | short {capitals rest : List Char} {first : Char}
      (noSmall : ∀ character ∈ capitals, Text.isLowercase character = false)
      (small : Text.isLowercase first = true) (short : capitals.length ≤ 1) :
      Beginning (capitals ++ first :: rest)
  | long {capitals rest : List Char} {last first : Char}
      (noSmall : ∀ character ∈ capitals ++ [last], Text.isLowercase character = false)
      (small : Text.isLowercase first = true) (long : capitals ≠ []) :
      Beginning (capitals ++ last :: first :: rest)

theorem beginning_of_capitals {capitals rest : List Char} {first : Char}
    (noSmall : ∀ character ∈ capitals, Text.isLowercase character = false)
    (small : Text.isLowercase first = true) :
    Beginning (capitals ++ first :: rest) := by
  rcases List.eq_nil_or_concat capitals with rfl | ⟨init, last, rfl⟩
  · exact .short noSmall small (Nat.zero_le 1)
  · rw [List.concat_eq_append] at noSmall ⊢
    by_cases single : init = []
    · subst single
      exact .short noSmall small (Nat.le_refl 1)
    · rw [List.append_assoc]
      exact .long noSmall small single

theorem beginning (characters : List Char) : Beginning characters := by
  rcases no_small_or_first_small characters with
    noSmall | ⟨capitals, first, rest, rfl, noSmall, small⟩
  · exact .capitals noSmall
  · exact beginning_of_capitals noSmall small

/-! ## The place of the first small letter -/

/-- A name with its leading capitals lowered, by the place of its first small letter. -/
def loweredBefore (characters : List Char) : Option Nat → List Char
  | none => Text.lowerCharacters characters
  | some 0 => characters
  | some 1 => Text.lowerCharacters (characters.take 1) ++ characters.drop 1
  | some (place + 2) =>
      Text.lowerCharacters (characters.take (place + 1)) ++ characters.drop (place + 1)

theorem findIdx?_capitals_append {capitals rest : List Char} {first : Char}
    (noSmall : ∀ character ∈ capitals, Text.isLowercase character = false)
    (small : Text.isLowercase first = true) :
    (capitals ++ first :: rest).findIdx? Text.isLowercase = some capitals.length := by
  rw [List.findIdx?_append, List.findIdx?_eq_none_iff.mpr noSmall, List.findIdx?_cons, small]
  simp

theorem unexportedCharacters_eq_loweredBefore (characters : List Char) :
    unexportedCharacters characters =
      loweredBefore characters (characters.findIdx? Text.isLowercase) := by
  cases beginning characters with
  | capitals noSmall =>
      rw [unexportedCharacters_of_no_small noSmall, List.findIdx?_eq_none_iff.mpr noSmall]
      rfl
  | @short capitals rest first noSmall small short =>
      rw [unexportedCharacters_of_short noSmall small short,
        findIdx?_capitals_append noSmall small]
      match capitals, short with
      | [], _ => rfl
      | [capital], _ => rfl
  | @long capitals rest last first noSmall small long =>
      obtain ⟨capital, more, rfl⟩ := List.exists_cons_of_ne_nil long
      have place :
          ((capital :: more) ++ last :: first :: rest).findIdx? Text.isLowercase =
            some (more.length + 2) := by
        have run := @findIdx?_capitals_append _ rest _ noSmall small
        rw [List.append_assoc] at run
        simpa using run
      rw [unexportedCharacters_of_long noSmall small long, place, loweredBefore,
        ← List.length_cons, List.take_left, List.drop_left]

/-- No character from the first small letter on is lowered. -/
theorem exists_loweredBefore_eq (characters : List Char) (place : Nat) :
    ∃ count ≤ place,
      loweredBefore characters (some place) =
        Text.lowerCharacters (characters.take count) ++ characters.drop count := by
  match place with
  | 0 => exact ⟨0, Nat.le_refl 0, rfl⟩
  | 1 => exact ⟨1, Nat.le_refl 1, rfl⟩
  | place + 2 => exact ⟨place + 1, Nat.le_succ _, rfl⟩

/-! ## Nothing left to lower -/

section Kept

variable {capitals characters rest : List Char} {first : Char}

/-- A name is unexported already if lowering keeps all in front of its first small letter. -/
theorem unexportedCharacters_of_steady
    (noSmall : ∀ character ∈ capitals, Text.isLowercase character = false)
    (steady : ∀ character ∈ capitals, Text.Steady character)
    (small : Text.isLowercase first = true) :
    unexportedCharacters (capitals ++ first :: rest) = capitals ++ first :: rest := by
  obtain ⟨count, bounded, shape⟩ :=
    exists_loweredBefore_eq (capitals ++ first :: rest) capitals.length
  have kept :
      Text.lowerCharacters ((capitals ++ first :: rest).take count) =
        (capitals ++ first :: rest).take count := by
    apply Text.lowerFrom_of_steady
    intro character member
    rw [List.take_append_of_le_length bounded] at member
    exact steady character (List.mem_of_mem_take member)
  rw [unexportedCharacters_eq_loweredBefore, findIdx?_capitals_append noSmall small, shape, kept,
    List.take_append_drop]

/--
A lower-case form with a small letter in it may be continued in any way.  Without one it consists
of characters that lowering keeps, and the continuation has to be looked at.
-/
theorem unexportedCharacters_lowerCharacters_append
    (settled :
      (∀ character ∈ Text.lowerCharacters characters, Text.isLowercase character = false) →
        (∀ character ∈ Text.lowerCharacters characters, Text.Steady character) →
          unexportedCharacters (Text.lowerCharacters characters ++ rest) =
            Text.lowerCharacters characters ++ rest) :
    unexportedCharacters (Text.lowerCharacters characters ++ rest) =
      Text.lowerCharacters characters ++ rest := by
  have keeps :
      ∀ character ∈ Text.lowerCharacters characters,
        Text.isLowercase character = false → Text.Steady character :=
    fun _ member notSmall => Text.steady_of_mem_lowerFrom member notSmall
  rcases no_small_or_first_small (Text.lowerCharacters characters) with
    noSmall | ⟨front, first, others, split, noSmall, small⟩
  · exact settled noSmall fun character member => keeps character member (noSmall character member)
  · rw [split] at keeps ⊢
    rw [List.append_assoc, List.cons_append]
    refine unexportedCharacters_of_steady noSmall (fun character member => ?_) small
    exact keeps character (List.mem_append_left _ member) (noSmall character member)

end Kept

theorem unexportedCharacters_unexportedCharacters (characters : List Char) :
    unexportedCharacters (unexportedCharacters characters) = unexportedCharacters characters := by
  cases beginning characters with
  | capitals noSmall =>
      rw [unexportedCharacters_of_no_small noSmall, ← List.append_nil (Text.lowerCharacters _)]
      refine unexportedCharacters_lowerCharacters_append fun noSmallLeft steady => ?_
      rw [List.append_nil, unexportedCharacters_of_no_small noSmallLeft]
      exact Text.lowerFrom_of_steady [] steady
  | short noSmall small short =>
      rw [unexportedCharacters_of_short noSmall small short]
      refine unexportedCharacters_lowerCharacters_append fun noSmallLeft steady => ?_
      exact unexportedCharacters_of_steady noSmallLeft steady small
  | @long capitals rest last first noSmall small long =>
      rw [unexportedCharacters_of_long noSmall small long]
      refine unexportedCharacters_lowerCharacters_append fun noSmallLeft steady => ?_
      -- The last capital is again the one in front of the first small letter, and is kept again.
      have noSmallRun :
          ∀ character ∈ Text.lowerCharacters capitals ++ [last],
            Text.isLowercase character = false := by
        rw [List.forall_mem_append, List.forall_mem_singleton]
        exact ⟨noSmallLeft, noSmall last (by simp)⟩
      rw [unexportedCharacters_of_long noSmallRun small (Text.lowerCharacters_ne_nil long)]
      congr 1
      exact Text.lowerFrom_of_steady [] steady

/--
A name is lowered as a whole if it has no small letter.  Otherwise it is lowered up to the first
one, but the last of several characters in front of it is kept.  There is nothing left to lower
then, also where lowering lengthens the name or writes a final sigma.
-/
theorem unexported_lowers_leading_run (name : String) :
    (unexported name).toList =
        loweredBefore name.toList (name.toList.findIdx? Text.isLowercase) ∧
      unexported (unexported name) = unexported name := by
  constructor
  · rw [unexported, String.toList_ofList, unexportedCharacters_eq_loweredBefore]
  · rw [unexported, unexported, String.toList_ofList, unexportedCharacters_unexportedCharacters]

example :
    unexported "İDs" = "i\u0307Ds" ∧ unexported "ΑΣ" = "ας" ∧
      unexported "ΑΣΒα" = "αςΒα" := by
  decide +kernel

end FuncAdapter.Naming
