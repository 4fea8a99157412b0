import FuncAdapter.Naming.TypeName
import FuncAdapter.Proofs.Text.LetterCase
import Mathlib.Data.List.Forall2
import Mathlib.Data.List.TakeWhile

/-!
# Unexported names

Lowering the capitals at the beginning of a name changes its characters up to some place and keeps
the others.  Which place this is depends on the first small letter: a single capital in front of it
is lowered, of several the last one is kept, and without a small letter the whole name is lowered.

A word of small letters of ASCII can therefore be the unexported form of three names only: the word
itself, the word with a capital in front, and the word in capitals.
-/

namespace FuncAdapter.Naming

/-- The unexported form lowers the characters up to some place and keeps the rest. -/
theorem exists_unexportedCharacters_eq (characters : List Char) :
    ∃ place,
      unexportedCharacters characters =
        Text.lowerCharacters (characters.take place) ++ characters.drop place := by
  rw [unexportedCharacters]
  generalize capitals_eq :
    (characters.takeWhile fun character => !Text.isLowercase character) = capitals
  have begins : capitals <+: characters := capitals_eq ▸ List.takeWhile_prefix _
  split
  · refine ⟨capitals.length, ?_⟩
    rw [← List.prefix_iff_eq_take.mp begins]
  · refine ⟨capitals.dropLast.length, ?_⟩
    have shorter : capitals.dropLast <+: characters := (List.dropLast_prefix _).trans begins
    rw [← List.prefix_iff_eq_take.mp shorter]

/-- A plain unexported form keeps or lowers every character at its place. -/
theorem forall₂_of_unexportedCharacters {characters word : List Char}
    (plain : ∀ character ∈ word, Text.isPlain character = true)
    (unexported : unexportedCharacters characters = word) :
    List.Forall₂ (fun old new => old = new ∨ Text.lowerSimple old = new) characters word := by
  obtain ⟨place, shape⟩ := exists_unexportedCharacters_eq characters
  rw [shape] at unexported
  subst unexported
  have lowered :
      (characters.take place).map Text.lowerSimple =
        Text.lowerCharacters (characters.take place) :=
    Text.map_lowerSimple_of_lowerFrom
      (fun character member => plain character (List.mem_append_left _ member)) rfl
  rw [← lowered]
  nth_rewrite 1 [← List.take_append_drop place characters]
  refine List.rel_append ?_ ?_
  · rw [List.forall₂_map_right_iff, List.forall₂_same]
    intro character _
    exact Or.inr rfl
  · rw [List.forall₂_same]
    intro character _
    exact Or.inl rfl

/-! ## The place of the first small letter -/

section FirstSmallLetter

variable {capitals rest : List Char} {first : Char}

theorem takeWhile_capitals_append
    (noSmall : ∀ character ∈ capitals, Text.isLowercase character = false)
    (small : Text.isLowercase first = true) :
    ((capitals ++ first :: rest).takeWhile fun character => !Text.isLowercase character) =
      capitals := by
  rw [List.takeWhile_append_of_pos (by simpa using noSmall), List.takeWhile_cons, small]
  simp

theorem dropWhile_capitals_append
    (noSmall : ∀ character ∈ capitals, Text.isLowercase character = false)
    (small : Text.isLowercase first = true) :
    ((capitals ++ first :: rest).dropWhile fun character => !Text.isLowercase character) =
      first :: rest := by
  rw [List.dropWhile_append_of_pos (by simpa using noSmall), List.dropWhile_cons, small]
  simp

/-- A name without a small letter is lowered as a whole. -/
theorem unexportedCharacters_of_no_small
    (noSmall : ∀ character ∈ capitals, Text.isLowercase character = false) :
    unexportedCharacters capitals = Text.lowerCharacters capitals := by
  have all : (capitals.takeWhile fun character => !Text.isLowercase character) = capitals :=
    List.takeWhile_eq_self_iff.mpr (by simpa using noSmall)
  have none : (capitals.dropWhile fun character => !Text.isLowercase character) = [] :=
    List.dropWhile_eq_nil_iff.mpr (by simpa using noSmall)
  simp [unexportedCharacters, all, none]

/-- At most one capital in front of the first small letter is lowered. -/
theorem unexportedCharacters_of_short
    (noSmall : ∀ character ∈ capitals, Text.isLowercase character = false)
    (small : Text.isLowercase first = true) (short : capitals.length ≤ 1) :
    unexportedCharacters (capitals ++ first :: rest) =
      Text.lowerCharacters capitals ++ first :: rest := by
  rw [unexportedCharacters]
  simp [takeWhile_capitals_append noSmall small, dropWhile_capitals_append noSmall small, short]

/-- Of several capitals in front of the first small letter the last one is kept. -/
theorem unexportedCharacters_of_long {last : Char}
    (noSmall : ∀ character ∈ capitals ++ [last], Text.isLowercase character = false)
    (small : Text.isLowercase first = true) (long : capitals ≠ []) :
    unexportedCharacters (capitals ++ last :: first :: rest) =
      Text.lowerCharacters capitals ++ last :: first :: rest := by
  have split : capitals ++ last :: first :: rest = (capitals ++ [last]) ++ first :: rest := by
    simp
  have several : ¬ (capitals ++ [last]).length ≤ 1 := by
    have positive := List.length_pos_iff.mpr long
    rw [List.length_append, List.length_singleton]
    omega
  rw [unexportedCharacters, split, takeWhile_capitals_append noSmall small,
    dropWhile_capitals_append noSmall small, if_neg (by simpa using several)]
  simp

/-- Every name has no small letter or a first one. -/
theorem no_small_or_first_small (characters : List Char) :
    (∀ character ∈ characters, Text.isLowercase character = false) ∨
      ∃ capitals first rest,
        characters = capitals ++ first :: rest ∧
          (∀ character ∈ capitals, Text.isLowercase character = false) ∧
          Text.isLowercase first = true := by
  induction characters with
  | nil => exact Or.inl fun _ member => nomatch member
  | cons character characters ih =>
      by_cases small : Text.isLowercase character = true
      · exact Or.inr ⟨[], character, characters, rfl, (fun _ member => nomatch member), small⟩
      · have capital : Text.isLowercase character = false := by simpa using small
        rcases ih with noSmall | ⟨capitals, first, rest, same, noSmall, small⟩
        · exact Or.inl (List.forall_mem_cons.mpr ⟨capital, noSmall⟩)
        · exact Or.inr
            ⟨character :: capitals, first, rest, by rw [same, List.cons_append],
              List.forall_mem_cons.mpr ⟨capital, noSmall⟩, small⟩

end FirstSmallLetter

/-! ## Words of small letters -/

/-- A word with a capital in front. -/
def capitalized : List Char → List Char
  | [] => []
  | first :: rest => first.toUpper :: rest

/-- A small letter is the lower-case form of its capital, which is none. -/
theorem toLower_toUpper_of_isLower {letter : Char} (small : letter.isLower = true) :
    letter.toUpper.toLower = letter ∧ letter.toUpper.isLower = false := by
  have ascii : Text.IsAscii letter := Text.isAscii_of_isLower small
  revert small
  exact ascii.of_codes (by decide +kernel)

/-- A character of ASCII that only lowering turns into a small letter is its capital. -/
theorem toUpper_toLower_of_ascii {character : Char} (ascii : Text.IsAscii character)
    (notSmall : character.isLower = false) (small : character.toLower.isLower = true) :
    character.toLower.toUpper = character := by
  revert notSmall small
  exact ascii.of_codes (by decide +kernel)

section Words

variable {characters word : List Char}

/-- Lowering turns the capitals of a word back into the word. -/
theorem map_toLower_map_toUpper (small : ∀ letter ∈ word, letter.isLower = true) :
    (word.map Char.toUpper).map Char.toLower = word := by
  rw [List.map_map, List.map_congr_left (g := id) fun letter member => ?_, List.map_id]
  exact (toLower_toUpper_of_isLower (small letter member)).1

/-- Three spellings of a word of small letters have it as their unexported form. -/
theorem unexportedCharacters_of_spelling
    (ascii : ∀ character ∈ characters, Text.IsAscii character)
    (small : ∀ letter ∈ word, letter.isLower = true)
    (spelling :
      characters = word ∨ characters = capitalized word ∨
        characters = word.map Char.toUpper) :
    unexportedCharacters characters = word := by
  have lowercase :
      ∀ character ∈ characters, Text.isLowercase character = character.isLower :=
    fun character member => (ascii character member).isLowercase_eq
  rcases spelling with rfl | rfl | rfl
  · cases characters with
    | nil => rfl
    | cons first rest =>
        have smallFirst : Text.isLowercase first = true := by
          rw [lowercase first (by simp), small first (by simp)]
        have noSmall : ∀ character ∈ [], Text.isLowercase character = false := by simp
        exact unexportedCharacters_of_short noSmall smallFirst (by simp)
  · cases word with
    | nil => rfl
    | cons first rest =>
        have capital := toLower_toUpper_of_isLower (small first (by simp))
        have noSmall : ∀ character ∈ [first.toUpper], Text.isLowercase character = false := by
          intro character member
          cases List.mem_singleton.mp member
          rw [lowercase first.toUpper (by simp [capitalized]), capital.2]
        have lowered : Text.lowerCharacters [first.toUpper] = [first] := by
          rw [Text.lowerCharacters_of_ascii
            (by simpa using ascii first.toUpper (by simp [capitalized]))]
          simp [capital.1]
        cases rest with
        | nil => exact (unexportedCharacters_of_no_small noSmall).trans lowered
        | cons second rest =>
            have smallSecond : Text.isLowercase second = true := by
              rw [lowercase second (by simp [capitalized]), small second (by simp)]
            rw [capitalized, ← List.singleton_append,
              unexportedCharacters_of_short noSmall smallSecond (by simp), lowered]
            rfl
  · have noSmall :
        ∀ character ∈ word.map Char.toUpper, Text.isLowercase character = false := by
      intro character member
      rw [lowercase character member]
      obtain ⟨letter, inWord, rfl⟩ := List.mem_map.mp member
      exact (toLower_toUpper_of_isLower (small letter inWord)).2
    rw [unexportedCharacters_of_no_small noSmall, Text.lowerCharacters_of_ascii ascii,
      map_toLower_map_toUpper small]

/-- A word of small letters is the unexported form of no other names of ASCII. -/
theorem spelling_of_unexportedCharacters
    (ascii : ∀ character ∈ characters, Text.IsAscii character)
    (small : ∀ letter ∈ word, letter.isLower = true)
    (unexported : unexportedCharacters characters = word) :
    characters = word ∨ characters = capitalized word ∨
      characters = word.map Char.toUpper := by
  subst unexported
  have raised :
      ∀ character ∈ characters, Text.isLowercase character = false →
        character.toLower ∈ unexportedCharacters characters →
          character.toLower.toUpper = character := by
    intro character member notSmall lowered
    rw [(ascii character member).isLowercase_eq] at notSmall
    exact toUpper_toLower_of_ascii (ascii character member) notSmall (small _ lowered)
  rcases no_small_or_first_small characters with
    noSmall | ⟨capitals, first, rest, rfl, noSmall, smallFirst⟩
  · right
    right
    have whole : unexportedCharacters characters = characters.map Char.toLower := by
      rw [unexportedCharacters_of_no_small noSmall, Text.lowerCharacters_of_ascii ascii]
    rw [whole] at raised ⊢
    rw [List.map_map, List.map_congr_left (g := id) fun character member => ?_, List.map_id]
    exact raised character member (noSmall character member) (List.mem_map_of_mem member)
  · match capitals with
    | [] =>
        left
        exact (unexportedCharacters_of_short noSmall smallFirst (by simp)).symm
    | [capital] =>
        right
        left
        have kept :
            unexportedCharacters ([capital] ++ first :: rest) =
              capital.toLower :: first :: rest := by
          rw [unexportedCharacters_of_short noSmall smallFirst (by simp),
            Text.lowerCharacters_of_ascii (by simpa using ascii capital (by simp))]
          rfl
        rw [kept] at raised ⊢
        rw [capitalized, raised capital (by simp) (noSmall capital (by simp)) (by simp)]
        rfl
    | capital :: second :: more =>
        -- The last capital stays in the unexported form, which has small letters only.
        obtain ⟨init, last, same⟩ : ∃ init last, second :: more = init ++ [last] :=
          ⟨_, _, (List.dropLast_append_getLast (List.cons_ne_nil second more)).symm⟩
        rw [same] at noSmall ascii small
        have split :
            capital :: (init ++ [last]) ++ first :: rest =
              (capital :: init) ++ last :: first :: rest := by
          simp
        have kept :
            last ∈ unexportedCharacters (capital :: (init ++ [last]) ++ first :: rest) := by
          rw [split, unexportedCharacters_of_long noSmall smallFirst (List.cons_ne_nil _ _)]
          simp
        have notSmall := noSmall last (by simp)
        rw [(ascii last (by simp)).isLowercase_eq, small last kept] at notSmall
        exact absurd notSmall (by decide)

/-- A word of small letters is the unexported form of three names of ASCII only. -/
theorem unexportedCharacters_eq_iff
    (ascii : ∀ character ∈ characters, Text.IsAscii character)
    (small : ∀ letter ∈ word, letter.isLower = true) :
    unexportedCharacters characters = word ↔
      characters = word ∨ characters = capitalized word ∨
        characters = word.map Char.toUpper :=
  ⟨spelling_of_unexportedCharacters ascii small,
    unexportedCharacters_of_spelling ascii small⟩

end Words

/-! ## Types that suggest a name -/

/-- The name of a type behind its pointers, also one in a package. -/
def typeName? : Expr → Option String
  | .pointer target => typeName? target
  | .ident name => some name
  | .selector _ name => some name
  | _ => none

/-- The plural of a name ends with its letter. -/
theorem append_s_ne {name word : String} (noPlural : word.toList.getLast? ≠ some 's') :
    name ++ "s" ≠ word := by
  rintro rfl
  exact noPlural (by simp)

theorem selectedName_eq_iff {word : String}
    (noContext : word ≠ "ctx" ∧ word ≠ "context") (qualifier : Expr) (name : String) :
    selectedName qualifier name = word ↔ unexported name = word := by
  have lowered : unexported "Context" = "context" := by decide +kernel
  unfold selectedName
  split
  · split
    · next context =>
        subst context
        rw [lowered]
        exact ⟨fun same => absurd same.symm noContext.1, fun same => absurd same.symm noContext.2⟩
    · exact Iff.rfl
  · exact Iff.rfl

/--
A word that is no plural, no name for contexts and not the fallback is suggested exactly by the
types that behind their pointers have a name with this unexported form.
-/
theorem inferred_eq_iff {word : String}
    (noPlural : word.toList.getLast? ≠ some 's')
    (noContext : word ≠ "ctx" ∧ word ≠ "context")
    (noFallback : word ≠ fallbackName) (type : Expr) :
    inferred type = word ↔ ∃ name, typeName? type = some name ∧ unexported name = word := by
  fun_induction inferred type with
  | case1 element length ih => simp [typeName?, append_s_ne noPlural]
  | case2 key value ih => simp [typeName?, append_s_ne noPlural]
  | case3 target ih => simpa [typeName?] using ih
  | case4 name => simp [typeName?]
  | case5 qualifier name => simpa [typeName?] using selectedName_eq_iff noContext qualifier name
  | case6 type notArray notMap notPointer notIdent notSelector =>
      cases type with
      | array element length => exact (notArray element length rfl).elim
      | map key value => exact (notMap key value rfl).elim
      | pointer target => exact (notPointer target rfl).elim
      | ident name => exact (notIdent name rfl).elim
      | selector qualifier name => exact (notSelector qualifier name rfl).elim
      | _ => simp [typeName?, noFallback.symm]

end FuncAdapter.Naming
