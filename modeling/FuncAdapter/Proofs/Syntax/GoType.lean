import FuncAdapter.Proofs.Text.Join
import FuncAdapter.Syntax.Source

/-!
# Go types and how their texts begin

A Go type is an expression that is taken apart completely and whose names are free of the characters
that divide a source text.  Such a text shows by its first word and the character behind it what
kind of type it begins with, provided that nothing follows the type that could belong to it.
-/

namespace FuncAdapter

/-! ## Go types -/

/-- Whether a character divides a source text, so that no name may hold it. -/
def isDivider (character : Char) : Bool :=
  [' ', '.', ',', ';', '(', ')', '[', ']', '\x7b', '\x7d', '*'].contains character

/-- A name that is not empty, holds no divider and does not open a type of another kind. -/
def PlainName (name : String) : Prop :=
  name ≠ "" ∧ (∀ character ∈ name.toList, isDivider character = false) ∧
    name ∉ ["func", "map", "interface"]

instance (name : String) : Decidable (PlainName name) :=
  -- The characters of the name are checked, not all characters that there are.
  haveI : Decidable (∀ character ∈ name.toList, isDivider character = false) :=
    List.decidableBAll _ _
  inferInstanceAs (Decidable (_ ∧ _ ∧ _))

/-- The length of an array that is not empty and holds no square brackets. -/
def PlainLength (length : String) : Prop :=
  length ≠ "" ∧ '[' ∉ length.toList ∧ ']' ∉ length.toList

instance (length : String) : Decidable (PlainLength length) :=
  inferInstanceAs (Decidable (_ ∧ _ ∧ _))

/-- Fields with plain names, where all of the fields have names or none has. -/
def PlainFields (fields : List Field) : Prop :=
  (∀ field ∈ fields, ∀ name ∈ field.names, PlainName name) ∧
    ((∀ field ∈ fields, field.names = []) ∨ ∀ field ∈ fields, field.names ≠ [])

instance (fields : List Field) : Decidable (PlainFields fields) :=
  inferInstanceAs (Decidable (_ ∧ _))

/-- An entry of an interface: a method with a plain name, or an embedded type that has a name. -/
def PlainEntry : Field → Prop
  | .mk [name] (.func _ _) => PlainName name
  | .mk [] (.ident _) => True
  | .mk [] (.selector _ _) => True
  | _ => False

/--
The Go types that are taken apart completely.  White space other than the blank needs no mention,
because the source text of a type uses none.
-/
inductive GoType : Expr → Prop
  | ident {name : String} (plain : PlainName name) : GoType (.ident name)
  | array {element : Expr} {length : Option String} (plain : ∀ text ∈ length, PlainLength text)
      (inner : GoType element) : GoType (.array element length)
  | map {key value : Expr} (first : GoType key) (second : GoType value) : GoType (.map key value)
  | pointer {target : Expr} (inner : GoType target) : GoType (.pointer target)
  | selector {qualifier name : String} (plainQualifier : PlainName qualifier)
      (plain : PlainName name) : GoType (.selector (.ident qualifier) name)
  | variadic {element : Expr} (inner : GoType element) : GoType (.variadic element)
  | func {params : List Field} {results : Option (List Field)} (plain : PlainFields params)
      (types : ∀ field ∈ params, GoType field.type)
      (plainResults : ∀ fields ∈ results, fields ≠ [] ∧ PlainFields fields)
      (resultTypes : ∀ fields ∈ results, ∀ field ∈ fields, GoType field.type) :
      GoType (.func params results)
  | interface {methods : List Field} (plain : ∀ entry ∈ methods, PlainEntry entry)
      (types : ∀ entry ∈ methods, GoType entry.type) : GoType (.interface methods)

/-! ## What follows a name or a type -/

/-- A text that is empty or begins with a divider, so that a name in front of it ends there. -/
def Divided (rest : List Char) : Prop :=
  ∀ character ∈ rest.head?, isDivider character = true

/-- What may follow a type in a source text. -/
def Closing (rest : List Char) : Prop :=
  (∀ character ∈ rest.head?, character ∈ [')', ']', ',', ';']) ∨
    ∃ more, rest = ' ' :: '\x7d' :: more

theorem Divided.cons {character : Char} (divider : isDivider character = true)
    (rest : List Char) :
    Divided (character :: rest) := by
  rintro first ⟨⟩
  exact divider

theorem Closing.cons {character : Char} (closer : character ∈ [')', ']', ',', ';'])
    (rest : List Char) :
    Closing (character :: rest) := by
  refine .inl ?_
  rintro first ⟨⟩
  exact closer

theorem Closing.divided {rest : List Char} (closing : Closing rest) : Divided rest := by
  rcases closing with closers | ⟨more, rfl⟩
  · intro character first
    have dividers : ∀ closer ∈ [')', ']', ',', ';'], isDivider closer = true := by
      simp [isDivider]
    exact dividers character (closers character first)
  · exact .cons rfl _

theorem Closing.head?_ne_point {rest : List Char} (closing : Closing rest) :
    rest.head? ≠ some '.' := by
  rcases closing with closers | ⟨more, rfl⟩
  · intro point
    exact absurd (closers '.' point) (by decide)
  · simp

/-- A plain name ends at the first divider. -/
theorem PlainName.append_inj {name name' : String} {rest rest' : List Char}
    (plain : PlainName name) (plain' : PlainName name') (divided : Divided rest)
    (divided' : Divided rest') (same : name.toList ++ rest = name'.toList ++ rest') :
    name = name' ∧ rest = rest' := by
  obtain ⟨sameName, sameRest⟩ :=
    Text.append_inj_of_class (fun character => !isDivider character)
      (by simpa using plain.2.1) (by simpa using plain'.2.1) (by simpa [Divided] using divided)
      (by simpa [Divided] using divided') same
  exact ⟨String.toList_inj.mp sameName, sameRest⟩

/-- A text that begins with a word, a square bracket, a star or a point. -/
def Opens (text : List Char) : Prop :=
  ∃ first ∈ text.head?, isDivider first = true → first ∈ ['[', '*', '.']

theorem Opens.append {text : List Char} (opens : Opens text) (rest : List Char) :
    Opens (text ++ rest) := by
  obtain ⟨first, begins, opener⟩ := opens
  exact ⟨first, by simp_all [List.head?_append], opener⟩

theorem Opens.ne_cons {text : List Char} {character : Char} (opens : Opens text)
    (divider : isDivider character = true) (closer : character ∉ ['[', '*', '.'])
    (rest : List Char) :
    text ≠ character :: rest := by
  rintro rfl
  obtain ⟨first, ⟨⟩, opener⟩ := opens
  exact closer (opener divider)

theorem PlainName.opens {name : String} (plain : PlainName name) : Opens name.toList := by
  obtain ⟨nonempty, inside, -⟩ := plain
  cases same : name.toList with
  | nil => exact absurd (String.toList_eq_nil_iff.mp same) nonempty
  | cons first more =>
      refine ⟨first, rfl, fun divider => ?_⟩
      rw [inside first (by simp [same])] at divider
      exact nomatch divider

/-! ## Texts with what follows them -/

section Texts

variable (rest : List Char)

theorem Expr.text_array_append (element : Expr) (length : Option String) :
    (Expr.array element length).text.toList ++ rest =
      '[' :: ((length.getD "").toList ++ ']' :: (element.text.toList ++ rest)) := by
  simp [Expr.text]

theorem Expr.text_map_append (key value : Expr) :
    (Expr.map key value).text.toList ++ rest =
      "map[".toList ++ (key.text.toList ++ ']' :: (value.text.toList ++ rest)) := by
  simp [Expr.text]

theorem Expr.text_pointer_append (target : Expr) :
    (Expr.pointer target).text.toList ++ rest = '*' :: (target.text.toList ++ rest) := by
  simp [Expr.text]

theorem Expr.text_selector_append (qualifier name : String) :
    (Expr.selector (.ident qualifier) name).text.toList ++ rest =
      qualifier.toList ++ '.' :: (name.toList ++ rest) := by
  simp [Expr.text]

theorem Expr.text_variadic_append (element : Expr) :
    (Expr.variadic element).text.toList ++ rest =
      "...".toList ++ (element.text.toList ++ rest) := by
  simp [Expr.text]

theorem Signature.text_append (signature : Signature) :
    signature.text.toList ++ rest =
      '(' :: ((Text.join ", " (fieldTexts signature.params)).toList ++
        ')' :: ((resultsText signature.results).toList ++ rest)) := by
  simp [Signature.text, fieldsText]

theorem Expr.text_func_append (params : List Field) (results : Option (List Field)) :
    (Expr.func params results).text.toList ++ rest =
      "func".toList ++ ((Signature.mk params results).text.toList ++ rest) := by
  simp [Expr.text, Signature.text, fieldsText]

theorem Expr.text_interface_append (method : Field) (methods : List Field) :
    (Expr.interface (method :: methods)).text.toList ++ rest =
      "interface\x7b ".toList ++
        ((Text.join "; " (methodTexts (method :: methods))).toList ++ ' ' :: '\x7d' :: rest) := by
  simp [Expr.text]

end Texts

/-! ## How a type begins -/

/-- The kinds of types that the beginning of a source text tells apart. -/
inductive Opening where
  | name
  | selected
  | bracket
  | star
  | points
  | map
  | func
  | interface
  deriving DecidableEq

namespace Opening

/-- The kind of a type, given the word that its text begins with and the divider behind it. -/
def ofParts (word : String) (divider : Option Char) : Opening :=
  if word = "" then
    if divider = some '[' then .bracket else if divider = some '*' then .star else .points
  else if word = "map" then .map
  else if word = "func" then .func
  else if word = "interface" then .interface
  else if divider = some '.' then .selected
  else .name

/-- The kind of the type that a text begins with. -/
def ofText (text : List Char) : Opening :=
  ofParts (String.ofList (text.takeWhile fun character => !isDivider character))
    (text.dropWhile fun character => !isDivider character).head?

theorem ofText_append {word : String} {rest : List Char}
    (inside : ∀ character ∈ word.toList, isDivider character = false) (divided : Divided rest) :
    ofText (word.toList ++ rest) = ofParts word rest.head? := by
  obtain ⟨front, back⟩ :=
    Text.takeWhile_append_rest (fun character => !isDivider character)
      (by simpa using inside) (by simpa [Divided] using divided)
  rw [ofText, front, back, String.ofList_toList]

/-- A plain name is a type of its own unless a point follows. -/
theorem ofText_name {name : String} {rest : List Char} (plain : PlainName name)
    (divided : Divided rest) :
    ofText (name.toList ++ rest) = if rest.head? = some '.' then .selected else .name := by
  obtain ⟨nonempty, inside, unreserved⟩ := plain
  simp only [List.mem_cons, List.not_mem_nil, or_false, not_or] at unreserved
  rw [ofText_append inside divided]
  simp [ofParts, nonempty, unreserved]

end Opening

/-- The kind that the source text of a type shows. -/
def Expr.opening : Expr → Opening
  | .array _ _ => .bracket
  | .map _ _ => .map
  | .pointer _ => .star
  | .selector _ _ => .selected
  | .variadic _ => .points
  | .func _ _ => .func
  | .interface _ => .interface
  | _ => .name

/-- The source text of a type shows the kind of the type. -/
theorem GoType.ofText_text {type : Expr} {rest : List Char} (go : GoType type)
    (closing : Closing rest) :
    Opening.ofText (type.text.toList ++ rest) = type.opening := by
  cases go with
  | ident plain =>
      rw [Expr.text, Opening.ofText_name plain closing.divided, if_neg closing.head?_ne_point]
      rfl
  | selector plainQualifier plain =>
      rw [Expr.text_selector_append, Opening.ofText_name plainQualifier (.cons rfl _)]
      rfl
  | @interface methods _ _ =>
      cases methods <;>
        simp [Expr.text, Opening.ofText, isDivider, Opening.ofParts, Expr.opening]
  | _ => simp [Expr.text, Opening.ofText, isDivider, Opening.ofParts, Expr.opening]

/-- Types with the same text, each followed by what may follow it, are of the same kind. -/
theorem GoType.opening_eq {type other : Expr} {rest rest' : List Char} (go : GoType type)
    (go' : GoType other) (closing : Closing rest) (closing' : Closing rest')
    (same : type.text.toList ++ rest = other.text.toList ++ rest') :
    type.opening = other.opening := by
  rw [← go.ofText_text closing, same, go'.ofText_text closing']

/-- The source text of a type begins with a word or with one of three dividers. -/
theorem GoType.opens {type : Expr} (go : GoType type) : Opens type.text.toList := by
  cases go with
  | ident plain => exact plain.opens
  | @selector qualifier name plainQualifier _ =>
      have whole := Expr.text_selector_append [] qualifier name
      rw [List.append_nil] at whole
      rw [whole]
      exact plainQualifier.opens.append _
  | @interface methods _ _ => cases methods <;> simp [Opens, Expr.text, isDivider]
  | _ => simp [Opens, Expr.text, isDivider]

end FuncAdapter
