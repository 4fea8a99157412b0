import FuncAdapter.Text.Join

/-!
# Taking texts apart

Two texts that begin with characters of one class and go on with characters of another agree in both
parts if they agree as a whole.  The same holds of joined lists: if each item ends where its text
ends, then so does the list.
-/

namespace FuncAdapter.Text

section Classes

variable (isInside : Char → Bool) {front front' rest rest' : List Char}

/-- Characters of a class are split off from a text that goes on with none of them. -/
theorem takeWhile_append_rest (inside : ∀ character ∈ front, isInside character = true)
    (outside : ∀ character ∈ rest.head?, isInside character = false) :
    (front ++ rest).takeWhile isInside = front ∧ (front ++ rest).dropWhile isInside = rest := by
  rw [List.takeWhile_append_of_pos inside, List.dropWhile_append_of_pos inside]
  cases rest with
  | nil => simp
  | cons character rest => simp [outside character rfl]

/-- Two texts that begin with characters of a class and go on with others agree in both parts. -/
theorem append_inj_of_class (inside : ∀ character ∈ front, isInside character = true)
    (inside' : ∀ character ∈ front', isInside character = true)
    (outside : ∀ character ∈ rest.head?, isInside character = false)
    (outside' : ∀ character ∈ rest'.head?, isInside character = false)
    (same : front ++ rest = front' ++ rest') :
    front = front' ∧ rest = rest' := by
  have split := takeWhile_append_rest isInside inside outside
  rw [same] at split
  have split' := takeWhile_append_rest isInside inside' outside'
  exact ⟨split.1.symm.trans split'.1, split.2.symm.trans split'.2⟩

end Classes

/-- What follows the first text of a list of texts, given what follows the list. -/
def afterFirst (separator : String) (rest : List Char) : List String → List Char
  | [] => rest
  | texts => separator.toList ++ ((join separator texts).toList ++ rest)

theorem join_cons_append (separator text : String) (texts : List String)
    (rest : List Char) :
    (join separator (text :: texts)).toList ++ rest =
      text.toList ++ afterFirst separator rest texts := by
  cases texts with
  | nil => rfl
  | cons next texts => simp [join, afterFirst]

/--
Lists that are not empty are determined by their joined texts if their items are determined by
their texts, and if what follows the lists does not begin like a separator.
-/
theorem join_append_inj {item : Type} (text : item → String) (separator : String)
    (follows : List Char → Prop) {rest rest' : List Char} {first other : item}
    {items others : List item}
    (each : ∀ one ∈ first :: items, ∀ two ∈ other :: others, ∀ ⦃back back' : List Char⦄,
      follows back → follows back' →
        (text one).toList ++ back = (text two).toList ++ back' → one = two ∧ back = back')
    (separated : ∀ more, follows (separator.toList ++ more))
    (ends : follows rest) (ends' : follows rest')
    (apart : ∀ more, rest ≠ separator.toList ++ more)
    (apart' : ∀ more, rest' ≠ separator.toList ++ more)
    (same : (join separator ((first :: items).map text)).toList ++ rest =
      (join separator ((other :: others).map text)).toList ++ rest') :
    first :: items = other :: others ∧ rest = rest' := by
  have follows_afterFirst :
      ∀ {back : List Char} (texts : List String), follows back →
        follows (afterFirst separator back texts) := by
    intro back texts ends
    cases texts with
    | nil => exact ends
    | cons next texts => exact separated _
  induction items generalizing first other others with
  | nil =>
      simp only [List.map_cons, join_cons_append] at same
      obtain ⟨rfl, sameRest⟩ :=
        each _ List.mem_cons_self _ List.mem_cons_self (follows_afterFirst _ ends)
          (follows_afterFirst _ ends') same
      cases others with
      | nil => exact ⟨rfl, sameRest⟩
      | cons next others => exact absurd sameRest (apart _)
  | cons item items ih =>
      simp only [List.map_cons, join_cons_append] at same
      obtain ⟨rfl, sameRest⟩ :=
        each _ List.mem_cons_self _ List.mem_cons_self (follows_afterFirst _ ends)
          (follows_afterFirst _ ends') same
      cases others with
      | nil => exact absurd sameRest.symm (apart' _)
      | cons next others =>
          obtain ⟨sameItems, sameEnd⟩ :=
            ih (fun one inItems two inOthers =>
                each one (List.mem_cons_of_mem _ inItems) two (List.mem_cons_of_mem _ inOthers))
              (List.append_cancel_left sameRest)
          exact ⟨congrArg (first :: ·) sameItems, sameEnd⟩

end FuncAdapter.Text
