import FuncAdapter.Proofs.Adapter.Drafts
import FuncAdapter.Proofs.Naming.Stability
import FuncAdapter.Proofs.Naming.TypeName
import Mathlib.Algebra.Ring.Nat

/-!
# Parameter names as identifiers

Where the types and the declared parameters of a method have identifiers for names, the parameters
of its adapter have identifiers for names too, and none of them is blank: lowering, plurals and
numbers keep identifiers.

Lowering does not keep names away from keywords, though.  The main statement says of every keyword
when it is the name of a parameter: when exactly one parameter without a name has a type that is
called like the keyword, with a capital in front or in capitals.  Several such parameters are given
numbers, and no keyword ends with a digit.
-/

namespace FuncAdapter

namespace Adapter

/-! ## Identifiers and keywords -/

/-- Whether a character may begin an identifier of ASCII. -/
def isIdentifierStart (character : Char) : Bool :=
  character.isAlpha || character == '_'

/-- Whether a character may stand inside an identifier of ASCII. -/
def isIdentifierPart (character : Char) : Bool :=
  character.isAlphanum || character == '_'

/-- Whether characters are those of an identifier. -/
def formsIdentifier : List Char → Bool
  | [] => false
  | first :: rest => isIdentifierStart first && rest.all isIdentifierPart

/-- Whether a name is an identifier of ASCII; keywords and the blank name are not left out. -/
def isIdentifier (name : String) : Bool :=
  formsIdentifier name.toList

/-- The words that Go reserves. -/
def keywords : List String :=
  ["break", "case", "chan", "const", "continue", "default", "defer", "else", "fallthrough", "for",
    "func", "go", "goto", "if", "import", "interface", "map", "package", "range", "return",
    "select", "struct", "switch", "type", "var"]

/-- A name of the kind that declarations may use: an identifier, but not a blank one. -/
def Nameable (name : String) : Prop :=
  isIdentifier name = true ∧ name ≠ blankName

instance (name : String) : Decidable (Nameable name) :=
  inferInstanceAs (Decidable (_ ∧ _))

theorem isAscii_of_isIdentifierPart {character : Char}
    (part : isIdentifierPart character = true) :
    Text.IsAscii character := by
  rw [isIdentifierPart, Bool.or_eq_true, beq_iff_eq] at part
  rcases part with alphanum | rfl
  · exact Text.isAscii_of_isAlphanum alphanum
  · decide

theorem isIdentifierPart_of_start {character : Char}
    (start : isIdentifierStart character = true) :
    isIdentifierPart character = true := by
  rw [isIdentifierStart, Bool.or_eq_true] at start
  rw [isIdentifierPart, Char.isAlphanum, Bool.or_eq_true, Bool.or_eq_true]
  exact start.imp_left Or.inl

/-- Every character of an identifier is one of its parts, the first one included. -/
theorem isIdentifierPart_of_mem {characters : List Char}
    (identifier : formsIdentifier characters = true) :
    ∀ character ∈ characters, isIdentifierPart character = true := by
  cases characters with
  | nil => exact absurd identifier (by decide)
  | cons first rest =>
      rw [formsIdentifier, Bool.and_eq_true, List.all_eq_true] at identifier
      exact List.forall_mem_cons.mpr
        ⟨isIdentifierPart_of_start identifier.1, identifier.2⟩

theorem isAscii_of_mem {characters : List Char}
    (identifier : formsIdentifier characters = true) :
    ∀ character ∈ characters, Text.IsAscii character :=
  fun character member =>
    isAscii_of_isIdentifierPart (isIdentifierPart_of_mem identifier character member)

/-! ## What keeps identifiers -/

/-- Lowering a character changes no class of characters that identifiers know. -/
theorem isIdentifier_toLower {character : Char} (ascii : Text.IsAscii character) :
    isIdentifierStart character.toLower = isIdentifierStart character ∧
      isIdentifierPart character.toLower = isIdentifierPart character :=
  ascii.of_codes (by decide +kernel)

theorem formsIdentifier_map_toLower_append {lowered kept : List Char}
    (identifier : formsIdentifier (lowered ++ kept) = true) :
    formsIdentifier (lowered.map Char.toLower ++ kept) = true := by
  have ascii := isAscii_of_mem identifier
  cases lowered with
  | nil => exact identifier
  | cons first rest =>
      simp only [List.cons_append, formsIdentifier, Bool.and_eq_true, List.all_append,
        List.map_cons] at identifier ⊢
      obtain ⟨start, inLowered, inKept⟩ := identifier
      refine ⟨?_, ?_, inKept⟩
      · rw [(isIdentifier_toLower (ascii first (by simp))).1, start]
      · rw [List.all_map, List.all_eq_true]
        intro character member
        rw [Function.comp_apply, (isIdentifier_toLower (ascii character (by simp [member]))).2]
        exact List.all_eq_true.mp inLowered character member

/-- The unexported form of an identifier is one. -/
theorem isIdentifier_unexported {name : String} (identifier : isIdentifier name = true) :
    isIdentifier (Naming.unexported name) = true := by
  obtain ⟨place, shape⟩ := Naming.exists_unexportedCharacters_eq name.toList
  have ascii : ∀ character ∈ name.toList.take place, Text.IsAscii character :=
    fun character member => isAscii_of_mem identifier character (List.mem_of_mem_take member)
  rw [isIdentifier, Naming.unexported, String.toList_ofList, shape,
    Text.lowerCharacters_of_ascii ascii]
  apply formsIdentifier_map_toLower_append
  rw [List.take_append_drop]
  exact identifier

/-- Lowering makes no name blank. -/
theorem eq_blankName_of_unexported {name : String} (identifier : isIdentifier name = true)
    (blank : Naming.unexported name = blankName) :
    name = blankName := by
  have unexported : Naming.unexportedCharacters name.toList = ['_'] := by
    rw [← String.toList_ofList (l := Naming.unexportedCharacters name.toList)]
    exact congrArg String.toList blank
  have places := Naming.forall₂_of_unexportedCharacters (by simp [Text.isPlain]) unexported
  rw [List.forall₂_cons_right_iff] at places
  obtain ⟨first, rest, related, places, same⟩ := places
  rw [List.forall₂_nil_right_iff] at places
  subst places
  have ascii : Text.IsAscii first := isAscii_of_mem identifier first (by simp [same])
  have isBlank : first = '_' := by
    rw [ascii.lowerSimple_eq] at related
    revert related
    exact ascii.of_codes (by decide +kernel)
  rw [← String.toList_inj, same, isBlank]
  rfl

theorem Nameable.unexported {name : String} (nameable : Nameable name) :
    Nameable (Naming.unexported name) :=
  ⟨isIdentifier_unexported nameable.1,
    fun blank => nameable.2 (eq_blankName_of_unexported nameable.1 blank)⟩

/-- Characters that may stand inside an identifier may follow one. -/
theorem Nameable.append {name suffix : String} (nameable : Nameable name)
    (parts : suffix.toList.all isIdentifierPart = true) (nonempty : suffix.toList ≠ []) :
    Nameable (name ++ suffix) := by
  obtain ⟨identifier, -⟩ := nameable
  rw [isIdentifier] at identifier
  rw [Nameable, isIdentifier, ne_eq, ← String.toList_inj, String.toList_append]
  generalize name.toList = characters at identifier ⊢
  cases characters with
  | nil => exact absurd identifier (by decide)
  | cons first rest =>
      rw [formsIdentifier, Bool.and_eq_true] at identifier
      refine ⟨?_, ?_⟩
      · rw [List.cons_append, formsIdentifier, List.all_append, identifier.1, identifier.2,
          parts]
        rfl
      · intro blank
        have short : rest ++ suffix.toList = [] := (List.cons_eq_cons.mp blank).2
        exact nonempty (List.append_eq_nil_iff.mp short).2

theorem Nameable.numbered {name : String} (nameable : Nameable name) (number : Nat) :
    Nameable (Naming.Pass.numbered name number) := by
  refine nameable.append ?_ ?_
  · rw [Nat.toList_repr, List.all_eq_true]
    intro digit member
    have isDigit := Nat.isDigit_of_mem_toDigits (by decide) (by decide) member
    rw [isIdentifierPart, Char.isAlphanum, isDigit, Bool.or_true, Bool.true_or]
  · rw [Nat.toList_repr]
    exact Nat.toDigits_ne_nil

/-- The name that a parameter is named after: that of its type, or of what this leads to or holds. -/
def namesake? : Expr → Option String
  | .array element _ => namesake? element
  | .map _ value => namesake? value
  | .pointer target => namesake? target
  | .ident name => some name
  | .selector _ name => some name
  | _ => none

theorem namesake?_of_typeName? {type : Expr} {name : String}
    (named : Naming.typeName? type = some name) :
    namesake? type = some name := by
  fun_induction Naming.typeName? type with
  | case1 target ih => exact ih named
  | case2 _ => exact named
  | case3 _ _ => exact named
  | case4 type notPointer notIdent notSelector => exact absurd named (by simp)

theorem nameable_selectedName (qualifier : Expr) {name : String} (nameable : Nameable name) :
    Nameable (Naming.selectedName qualifier name) := by
  unfold Naming.selectedName
  split
  · split
    · decide
    · exact nameable.unexported
  · exact nameable.unexported

/-- A name that is made up after a nameable type is nameable. -/
theorem nameable_inferred {type : Expr}
    (names : ∀ name ∈ namesake? type, Nameable name) :
    Nameable (Naming.inferred type) := by
  have plural : "s".toList.all isIdentifierPart = true ∧ "s".toList ≠ [] := by decide
  fun_induction Naming.inferred type with
  | case1 element length ih => exact (ih names).append plural.1 plural.2
  | case2 key value ih => exact (ih names).append plural.1 plural.2
  | case3 target ih => exact ih names
  | case4 name => exact (names name rfl).unexported
  | case5 qualifier name => exact nameable_selectedName qualifier (names name rfl)
  | case6 => decide

theorem nameable_of_mem_inventedNames {fields : List Field} {name : String}
    (types : ∀ field ∈ fields, ∀ held ∈ namesake? field.type, Nameable held)
    (invented : name ∈ inventedNames fields) :
    Nameable name := by
  obtain ⟨field, member, copied⟩ := List.mem_flatMap.mp invented
  rw [List.eq_of_mem_replicate copied]
  exact nameable_inferred (types field member)

/-- Drafts are nameable if the declared names are identifiers and the types have nameable names. -/
theorem nameable_of_mem_drafts {fields : List Field} {name : String}
    (types : ∀ field ∈ fields, ∀ held ∈ namesake? field.type, Nameable held)
    (declared : ∀ own ∈ boundNames fields, isIdentifier own = true)
    (drafted : name ∈ fields.flatMap draftNames) :
    Nameable name := by
  rcases mem_drafts_iff.mp drafted with own | invented
  · obtain ⟨bound, notBlank⟩ := List.mem_filter.mp own
    exact ⟨declared name bound, by simpa using notBlank⟩
  · exact nameable_of_mem_inventedNames types invented

/-! ## Types that suggest a keyword -/

/-- A word with a capital in front, and a word in capitals. -/
def exportedForms (word : String) : List String :=
  [String.ofList (Naming.capitalized word.toList),
    String.ofList (word.toList.map Char.toUpper)]

example : exportedForms "type" = ["Type", "TYPE"] := by decide

/-- Whether the name of a type, behind its pointers, is an exported form of a word. -/
def suggests (word : String) (type : Expr) : Bool :=
  (Naming.typeName? type).any fun name => name ∈ exportedForms word

/-- Keywords have small letters only. -/
theorem isLower_of_keyword :
    ∀ keyword ∈ keywords, ∀ letter ∈ keyword.toList, letter.isLower = true := by
  have every : (keywords.all fun keyword => keyword.toList.all Char.isLower) = true := by
    decide +kernel
  simpa only [List.all_eq_true] using every

/-- No keyword is a plural, the name for contexts or the fallback. -/
theorem not_made_up_of_keyword :
    ∀ keyword ∈ keywords,
      keyword.toList.getLast? ≠ some 's' ∧ (keyword ≠ "ctx" ∧ keyword ≠ "context") ∧
        keyword ≠ Naming.fallbackName := by
  decide +kernel

theorem undigited_of_keyword {keyword : String} (reserved : keyword ∈ keywords) :
    Naming.Undigited keyword := by
  have ends :
      ∀ keyword ∈ keywords,
        (keyword.toList.getLast?.any fun last => !last.isDigit) = true := by
    decide +kernel
  obtain ⟨last, isLast, noDigit⟩ := Option.any_eq_true _ _ |>.mp (ends keyword reserved)
  exact Naming.undigited_of_getLast? isLast (by simpa using noDigit)

/-- Another identifier becomes a keyword exactly if it is an exported form of it. -/
theorem unexported_eq_keyword_iff {keyword name : String} (reserved : keyword ∈ keywords)
    (identifier : isIdentifier name = true) (other : name ≠ keyword) :
    Naming.unexported name = keyword ↔ name ∈ exportedForms keyword := by
  rw [Naming.unexported, exportedForms, List.mem_pair, ← String.toList_inj,
    String.toList_ofList, ← String.toList_inj, ← String.toList_inj, String.toList_ofList,
    String.toList_ofList,
    Naming.unexportedCharacters_eq_iff (isAscii_of_mem identifier)
      (isLower_of_keyword keyword reserved)]
  exact or_iff_right (mt String.toList_inj.mp other)

theorem inferred_eq_keyword_iff {keyword : String} (reserved : keyword ∈ keywords) {type : Expr}
    (names : ∀ name ∈ namesake? type, isIdentifier name = true ∧ name ∉ keywords) :
    Naming.inferred type = keyword ↔ suggests keyword type = true := by
  obtain ⟨noPlural, noContext, noFallback⟩ := not_made_up_of_keyword keyword reserved
  rw [Naming.inferred_eq_iff noPlural noContext noFallback, suggests, Option.any_eq_true]
  refine exists_congr fun name => and_congr_right fun named => ?_
  obtain ⟨identifier, free⟩ := names name (namesake?_of_typeName? named)
  have other : name ≠ keyword := fun same => free (same ▸ reserved)
  rw [unexported_eq_keyword_iff reserved identifier other, decide_eq_true_iff]

/-- How many values without a name of their own have a type that suggests a word. -/
def suggestions (word : String) (fields : List Field) : Nat :=
  (fields.map fun field => if suggests word field.type then unnamedValues field else 0).sum

theorem count_inventedNames_keyword {keyword : String} (reserved : keyword ∈ keywords)
    {fields : List Field}
    (types :
      ∀ field ∈ fields, ∀ name ∈ namesake? field.type,
        isIdentifier name = true ∧ name ∉ keywords) :
    (inventedNames fields).count keyword = suggestions keyword fields := by
  rw [inventedNames, List.count_flatMap, suggestions]
  congr 1
  apply List.map_congr_left
  intro field member
  have inferred := inferred_eq_keyword_iff reserved (types field member)
  rw [Function.comp_apply, List.count_replicate]
  simp only [beq_iff_eq, inferred]

/-! ## The names of an adapter -/

/--
Where types and declared parameters have identifiers for names, so have the parameters of the
adapter, none of them blank; a keyword is among them exactly if one single value without a name has
a type that suggests it.
-/
theorem params_identifiers_iff (signature : Signature)
    (types :
      ∀ field ∈ signature.params, ∀ name ∈ namesake? field.type,
        isIdentifier name = true ∧ name ∉ keywords ∧ name ≠ "_")
    (declared :
      ∀ name ∈ boundNames signature.params, isIdentifier name = true ∧ name ∉ keywords) :
    ∃ fields,
      params signature = .ok fields ∧
        (∀ name ∈ boundNames fields, isIdentifier name = true ∧ name ≠ "_") ∧
        ∀ keyword ∈ keywords,
          keyword ∈ boundNames fields ↔ suggestions keyword signature.params = 1 := by
  obtain ⟨names, round, named, fits, numbered, distinct⟩ := exists_params_eq_ok signature
  refine ⟨_, named, ?_, ?_⟩
  · have drafts : ∀ name ∈ signature.params.flatMap draftNames, Nameable name := by
      intro name drafted
      refine nameable_of_mem_drafts ?_ (fun own bound => (declared own bound).1) drafted
      intro field member held isHeld
      obtain ⟨identifier, -, notBlank⟩ := types field member held isHeld
      exact ⟨identifier, notBlank⟩
    have inTheEnd :
        ∀ name ∈ Naming.renumber^[round] (signature.params.flatMap draftNames), Nameable name :=
      Naming.forall_mem_iterate (fun _ number nameable => nameable.numbered number) round drafts
    rw [fits.boundNames_rename, numbered]
    exact inTheEnd
  · intro keyword reserved
    have undeclared : keyword ∉ declaredNames signature.params := fun own =>
      (declared keyword (List.mem_filter.mp own).1).2 reserved
    rw [numbered] at distinct
    rw [fits.boundNames_rename, numbered,
      (undigited_of_keyword reserved).mem_iterate_iff distinct, count_drafts,
      List.count_eq_zero.mpr undeclared, Nat.zero_add, count_inventedNames_keyword reserved]
    intro field member name isHeld
    obtain ⟨identifier, free, -⟩ := types field member name isHeld
    exact ⟨identifier, free⟩

/--
A method whose unnamed parameters have types with exported forms of keywords for names, as in
`Convert(reflect.Type, _, f1 *ast.Func, token.Func, []VAR)`.
-/
def converterSignature : Signature :=
  ⟨[.mk [] (.selector (.ident "reflect") "Type"),
      .mk ["_", "f1"] (.pointer (.selector (.ident "ast") "Func")),
      .mk ["_"] (.selector (.ident "token") "Func"),
      .mk ["_"] (.array (.ident "VAR") none)],
    none⟩

theorem params_identifiers_iff_converter :
    (∀ field ∈ converterSignature.params, ∀ name ∈ namesake? field.type,
        isIdentifier name = true ∧ name ∉ keywords ∧ name ≠ "_") ∧
      (∀ name ∈ boundNames converterSignature.params,
        isIdentifier name = true ∧ name ∉ keywords) ∧
      ∃ fields,
        params converterSignature = .ok fields ∧
          (∀ name ∈ boundNames fields, isIdentifier name = true ∧ name ≠ "_") ∧
          "type" ∈ boundNames fields ∧ "func" ∉ boundNames fields ∧
          "var" ∉ boundNames fields := by
  have types :
      ∀ field ∈ converterSignature.params, ∀ name ∈ namesake? field.type,
        isIdentifier name = true ∧ name ∉ keywords ∧ name ≠ "_" := by
    decide
  have declared :
      ∀ name ∈ boundNames converterSignature.params,
        isIdentifier name = true ∧ name ∉ keywords := by
    decide
  obtain ⟨fields, named, identifiers, reserved⟩ :=
    params_identifiers_iff converterSignature types declared
  have typeTaken := (reserved "type" (by decide)).mpr (by decide)
  have funcFree := mt (reserved "func" (by decide)).mp (by decide)
  have varFree := mt (reserved "var" (by decide)).mp (by decide)
  exact ⟨types, declared, fields, named, identifiers, typeTaken, funcFree, varFree⟩

/-- A method with one unnamed parameter, as in `Register(reflect.Type)`. -/
def registerSignature : Signature :=
  ⟨[.mk [] (.selector (.ident "reflect") "Type")], none⟩

/-- The names `reflect` and `Type` are free to use, but the adapter has a parameter `type`. -/
theorem parameter_named_by_keyword :
    (∀ name ∈ ["reflect", "Type"],
        isIdentifier name = true ∧ name ∉ keywords ∧ name ≠ "_") ∧
      params registerSignature =
          .ok [.mk ["type"] (.selector (.ident "reflect") "Type")] ∧
        "type" ∈ keywords :=
  ⟨by decide, rfl, by decide⟩

end Adapter

end FuncAdapter
