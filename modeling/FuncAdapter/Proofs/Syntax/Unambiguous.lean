import FuncAdapter.Proofs.Syntax.GoType
import Mathlib.Data.Set.Operations

/-!
# Source text that can be read in one way only

The source text of a Go type determines the type.  What follows a type shows where the type ends:
the end of the text, a closing bracket, a comma, a semicolon, or the blank in front of a closing
brace.  The proof is by induction on the type, with any text of that kind allowed to follow.

Lists of parameters and results are compared field by field.  Names in front of a type and a list of
types are told apart only at their end, by the blank behind the last name.  That is why either all
fields of a list must have names or none: `a, b int` is also the text of a field without a name
followed by a field with one.
-/

namespace FuncAdapter

/-! ## Fields -/

/--
A type is determined by its source text: no other type has the same text, whatever may follow the
two.
-/
def Determined (type : Expr) : Prop :=
  ∀ ⦃other : Expr⦄, GoType other → ∀ ⦃rest rest' : List Char⦄, Closing rest → Closing rest' →
    type.text.toList ++ rest = other.text.toList ++ rest' → type = other ∧ rest = rest'

/-- The source text of a field. -/
def Field.text (field : Field) : String :=
  namedText field.names field.type.text

theorem fieldTexts_eq_map (fields : List Field) : fieldTexts fields = fields.map Field.text := by
  induction fields with
  | nil => rfl
  | cons field fields ih =>
      obtain ⟨names, type⟩ := field
      rw [fieldTexts, ih]
      rfl

theorem Field.text_named_append (name : String) (names : List String) (type : Expr)
    (rest : List Char) :
    (Field.mk (name :: names) type).text.toList ++ rest =
      (Text.join ", " (name :: names)).toList ++ ' ' :: (type.text.toList ++ rest) := by
  simp [Field.text, namedText]

/-- Names in front of a type end at the first blank that does not follow a comma. -/
theorem names_append_inj {name other : String} {names others : List String}
    {rest rest' : List Char} (plain : ∀ one ∈ name :: names, PlainName one)
    (plain' : ∀ one ∈ other :: others, PlainName one)
    (same : (Text.join ", " (name :: names)).toList ++ ' ' :: rest =
      (Text.join ", " (other :: others)).toList ++ ' ' :: rest') :
    name :: names = other :: others ∧ rest = rest' := by
  have blank : ∀ more, Divided (' ' :: more) := Divided.cons rfl
  obtain ⟨sameNames, sameRest⟩ :=
    Text.join_append_inj id ", " Divided
      (fun one inNames two inOthers _ _ => (plain one inNames).append_inj (plain' two inOthers))
      (fun more => .cons rfl _) (blank rest) (blank rest') (by simp) (by simp)
      (by simpa using same)
  exact ⟨sameNames, (List.cons_eq_cons.mp sameRest).2⟩

/-- Two fields that both have names, or both have none, are determined by their texts. -/
theorem field_append_inj {field other : Field} {rest rest' : List Char}
    (named : field.names = [] ↔ other.names = [])
    (plain : ∀ name ∈ field.names, PlainName name)
    (plain' : ∀ name ∈ other.names, PlainName name)
    (determined : Determined field.type) (go : GoType other.type)
    (closing : Closing rest) (closing' : Closing rest')
    (same : field.text.toList ++ rest = other.text.toList ++ rest') :
    field = other ∧ rest = rest' := by
  obtain ⟨names, type⟩ := field
  obtain ⟨names', type'⟩ := other
  cases names with
  | nil =>
      obtain rfl : names' = [] := named.mp rfl
      obtain ⟨rfl, sameRest⟩ := determined go closing closing' same
      exact ⟨rfl, sameRest⟩
  | cons name names =>
      cases names' with
      | nil => exact absurd (named.mpr rfl) (by simp)
      | cons name' names' =>
          rw [Field.text_named_append, Field.text_named_append] at same
          obtain ⟨sameNames, sameType⟩ := names_append_inj plain plain' same
          obtain ⟨rfl, sameRest⟩ := determined go closing closing' sameType
          exact ⟨congrArg (Field.mk · type) sameNames, sameRest⟩

/-- A text that begins with a plain name and no type of another kind begins with that type only. -/
theorem PlainName.append_eq_text {name : String} {type : Expr} {rest rest' : List Char}
    (plain : PlainName name) (go : GoType type) (divided : Divided rest)
    (noPoint : rest.head? ≠ some '.') (closing : Closing rest')
    (same : name.toList ++ rest = type.text.toList ++ rest') :
    type = .ident name ∧ rest = rest' := by
  have opening : Opening.name = type.opening := by
    rw [← go.ofText_text closing, ← same, Opening.ofText_name plain divided, if_neg noPoint]
  cases go with
  | ident plain' =>
      obtain ⟨rfl, sameRest⟩ := plain.append_inj plain' divided closing.divided same
      exact ⟨rfl, sameRest⟩
  | _ => exact nomatch opening

/-- A list of types never reads like names in front of a type. -/
theorem names_append_ne_types {name : String} {names : List String} {type : Expr}
    {types : List Expr} (plain : ∀ one ∈ name :: names, PlainName one)
    (go : ∀ one ∈ type :: types, GoType one) (rest rest' : List Char) :
    (Text.join ", " (name :: names)).toList ++ ' ' :: rest ≠
      (Text.join ", " ((type :: types).map Expr.text)).toList ++ ')' :: rest' := by
  intro same
  have divided : ∀ texts, Divided (Text.afterFirst ", " (' ' :: rest) texts) ∧
      (Text.afterFirst ", " (' ' :: rest) texts).head? ≠ some '.' := by
    intro texts
    cases texts <;> exact ⟨.cons rfl _, by simp [Text.afterFirst]⟩
  have closing : ∀ texts, Closing (Text.afterFirst ", " (')' :: rest') texts) := by
    intro texts
    cases texts <;> exact .cons (by decide) _
  induction names generalizing name type types with
  | nil =>
      rw [List.map_cons, Text.join_cons_append, Text.join_cons_append] at same
      have sameRest := ((plain name (by simp)).append_eq_text (go type (by simp))
        (divided _).1 (divided _).2 (closing _) same).2
      cases types <;> simp [Text.afterFirst] at sameRest
  | cons next names ih =>
      rw [List.map_cons, Text.join_cons_append, Text.join_cons_append] at same
      have sameRest := ((plain name (by simp)).append_eq_text (go type (by simp))
        (divided _).1 (divided _).2 (closing _) same).2
      cases types with
      | nil => simp [Text.afterFirst] at sameRest
      | cons nextType types =>
          exact ih (fun one member => plain one (List.mem_cons_of_mem _ member))
            (fun one member => go one (List.mem_cons_of_mem _ member))
            (List.append_cancel_left sameRest)

theorem Field.opens_text {field : Field} (plain : ∀ name ∈ field.names, PlainName name)
    (go : GoType field.type) :
    Opens field.text.toList := by
  obtain ⟨names, type⟩ := field
  cases names with
  | nil => exact go.opens
  | cons name names =>
      have whole := Field.text_named_append name names type []
      rw [List.append_nil, Text.join_cons_append] at whole
      rw [whole]
      exact (plain name (by simp)).opens.append _

/-- A list of fields that is not empty does not begin with what closes a list. -/
theorem fields_append_ne_close {field : Field} {fields : List Field}
    (plain : ∀ name ∈ field.names, PlainName name) (go : GoType field.type)
    (rest rest' : List Char) :
    (Text.join ", " ((field :: fields).map Field.text)).toList ++ rest ≠ ')' :: rest' := by
  rw [List.map_cons, Text.join_cons_append]
  exact ((Field.opens_text plain go).append _).ne_cons rfl (by decide) _

/-- Fields with names never read like fields without. -/
theorem named_append_ne_unnamed {field other : Field} {fields others : List Field}
    (named : field.names ≠ []) (plain : ∀ name ∈ field.names, PlainName name)
    (unnamed : ∀ one ∈ other :: others, one.names = [])
    (go : ∀ one ∈ other :: others, GoType one.type) (rest rest' : List Char) :
    (Text.join ", " ((field :: fields).map Field.text)).toList ++ rest ≠
      (Text.join ", " ((other :: others).map Field.text)).toList ++ ')' :: rest' := by
  obtain ⟨names, type⟩ := field
  cases names with
  | nil => exact absurd rfl named
  | cons name names =>
      have typeTexts :
          (other :: others).map Field.text = ((other :: others).map Field.type).map Expr.text := by
        rw [List.map_map]
        refine List.map_congr_left fun one member => ?_
        rw [Field.text, unnamed one member]
        rfl
      rw [typeTexts, List.map_cons, Text.join_cons_append, Field.text_named_append]
      refine names_append_ne_types plain ?_ _ _
      rw [← List.map_cons]
      exact List.forall_mem_map.mpr go

/-- Parameters or results in parentheses are determined by their text. -/
theorem fields_append_inj {fields others : List Field} {rest rest' : List Char}
    (plain : PlainFields fields) (plain' : PlainFields others)
    (go : ∀ field ∈ fields, GoType field.type) (go' : ∀ field ∈ others, GoType field.type)
    (determined : ∀ field ∈ fields, Determined field.type)
    (same : (Text.join ", " (fieldTexts fields)).toList ++ ')' :: rest =
      (Text.join ", " (fieldTexts others)).toList ++ ')' :: rest') :
    fields = others ∧ rest = rest' := by
  rw [fieldTexts_eq_map, fieldTexts_eq_map] at same
  obtain ⟨plainNames, uniform⟩ := plain
  obtain ⟨plainNames', uniform'⟩ := plain'
  cases fields with
  | nil =>
      cases others with
      | nil => exact ⟨rfl, (List.cons_eq_cons.mp same).2⟩
      | cons other others =>
          exact absurd same.symm
            (fields_append_ne_close (plainNames' other (by simp)) (go' other (by simp)) _ _)
  | cons field fields =>
      cases others with
      | nil =>
          exact absurd same
            (fields_append_ne_close (plainNames field (by simp)) (go field (by simp)) _ _)
      | cons other others =>
          have named :
              ∀ one ∈ field :: fields, ∀ two ∈ other :: others,
                (one.names = [] ↔ two.names = []) := by
            rcases uniform with unnamed | named <;> rcases uniform' with unnamed' | named'
            · exact fun one inOnes two inTwos => by simp [unnamed one inOnes, unnamed' two inTwos]
            · exact absurd same.symm
                (named_append_ne_unnamed (named' other (by simp)) (plainNames' other (by simp))
                  unnamed go _ _)
            · exact absurd same
                (named_append_ne_unnamed (named field (by simp)) (plainNames field (by simp))
                  unnamed' go' _ _)
            · exact fun one inOnes two inTwos => by simp [named one inOnes, named' two inTwos]
          have closing : ∀ more, Closing (')' :: more) := Closing.cons (by decide)
          obtain ⟨sameFields, sameRest⟩ :=
            Text.join_append_inj Field.text ", " Closing
              (fun one inOnes two inTwos _ _ =>
                field_append_inj (named one inOnes two inTwos) (plainNames one inOnes)
                  (plainNames' two inTwos) (determined one inOnes) (go' two inTwos))
              (fun more => .cons (by decide) _) (closing rest) (closing rest') (by simp) (by simp)
              same
          exact ⟨sameFields, (List.cons_eq_cons.mp sameRest).2⟩

/-! ## Results and methods -/

/-- A blank that may follow a type stands in front of a closing brace. -/
theorem Closing.of_blank {rest : List Char} (closing : Closing (' ' :: rest)) :
    ∃ more, rest = '\x7d' :: more := by
  rcases closing with closers | ⟨more, same⟩
  · exact absurd (closers ' ' rfl) (by decide)
  · exact ⟨more, (List.cons_eq_cons.mp same).2⟩

/-- A result list is a blank followed by a single type, or by fields in parentheses. -/
theorem resultsText_some {fields : List Field} (nonempty : fields ≠ []) (rest : List Char) :
    (∃ type, fields = [.mk [] type] ∧
      (resultsText (some fields)).toList ++ rest = ' ' :: (type.text.toList ++ rest)) ∨
    (resultsText (some fields)).toList ++ rest =
      ' ' :: '(' :: ((Text.join ", " (fieldTexts fields)).toList ++ ')' :: rest) := by
  unfold resultsText
  split
  · next absent => exact nomatch absent
  · next empty => exact absurd (Option.some.inj empty) nonempty
  · next type single =>
      cases single
      exact .inl ⟨type, rfl, by simp⟩
  · next list =>
      cases list
      exact .inr (by simp)

/-- Nothing that may follow a type begins like a result list. -/
theorem Closing.ne_results {fields : List Field} {rest rest' : List Char}
    (closing : Closing rest) (nonempty : fields ≠ [])
    (go : ∀ field ∈ fields, GoType field.type) :
    rest ≠ (resultsText (some fields)).toList ++ rest' := by
  intro same
  rcases resultsText_some nonempty rest' with ⟨type, rfl, text⟩ | text
  · rw [text] at same
    subst same
    obtain ⟨more, brace⟩ := closing.of_blank
    exact ((go _ (List.mem_singleton_self _)).opens.append _).ne_cons rfl (by decide) _ brace
  · rw [text] at same
    subst same
    obtain ⟨more, brace⟩ := closing.of_blank
    exact absurd (List.cons_eq_cons.mp brace).1 (by decide)

/-- The results of a function are determined by their text. -/
theorem results_append_inj {results others : Option (List Field)} {rest rest' : List Char}
    (plain : ∀ fields ∈ results, fields ≠ [] ∧ PlainFields fields)
    (plain' : ∀ fields ∈ others, fields ≠ [] ∧ PlainFields fields)
    (go : ∀ fields ∈ results, ∀ field ∈ fields, GoType field.type)
    (go' : ∀ fields ∈ others, ∀ field ∈ fields, GoType field.type)
    (determined : ∀ fields ∈ results, ∀ field ∈ fields, Determined field.type)
    (closing : Closing rest) (closing' : Closing rest')
    (same : (resultsText results).toList ++ rest = (resultsText others).toList ++ rest') :
    results = others ∧ rest = rest' := by
  cases results with
  | none =>
      cases others with
      | none => exact ⟨rfl, same⟩
      | some others => exact absurd same (closing.ne_results (plain' _ rfl).1 (go' _ rfl))
  | some fields =>
      cases others with
      | none => exact absurd same.symm (closing'.ne_results (plain _ rfl).1 (go _ rfl))
      | some others =>
          rcases resultsText_some (plain _ rfl).1 rest with ⟨type, rfl, text⟩ | text <;>
            rcases resultsText_some (plain' _ rfl).1 rest' with ⟨type', rfl, text'⟩ | text' <;>
            rw [text, text'] at same <;>
            replace same := (List.cons_eq_cons.mp same).2
          · obtain ⟨rfl, sameRest⟩ :=
              determined _ rfl _ (List.mem_singleton_self _)
                (go' _ rfl _ (List.mem_singleton_self _)) closing closing' same
            exact ⟨rfl, sameRest⟩
          · have opens := (go _ rfl _ (List.mem_singleton_self _)).opens
            exact absurd same ((opens.append _).ne_cons rfl (by decide) _)
          · have opens := (go' _ rfl _ (List.mem_singleton_self _)).opens
            exact absurd same.symm ((opens.append _).ne_cons rfl (by decide) _)
          · obtain ⟨rfl, sameRest⟩ :=
              fields_append_inj (plain _ rfl).2 (plain' _ rfl).2 (go _ rfl) (go' _ rfl)
                (determined _ rfl) (List.cons_eq_cons.mp same).2
            exact ⟨rfl, sameRest⟩

/-- The source text of an entry of an interface. -/
def Field.entryText : Field → String
  | .mk (name :: _) (.func params results) => name ++ (Signature.mk params results).text
  | .mk names type => namedText names type.text

theorem methodTexts_eq_map (methods : List Field) :
    methodTexts methods = methods.map Field.entryText := by
  induction methods with
  | nil => rfl
  | cons method methods ih =>
      obtain ⟨names, type⟩ := method
      rw [List.map_cons, ← ih]
      cases names with
      | nil => rw [methodTexts, Field.entryText] <;> simp
      | cons name names =>
          cases type with
          | func params results =>
              simp [methodTexts, Field.entryText, Signature.text, fieldsText, String.append_assoc]
          | _ => rfl

theorem PlainEntry.cases {entry : Field} (plain : PlainEntry entry) :
    (∃ name params results, entry = .mk [name] (.func params results) ∧ PlainName name) ∨
      ∃ type, entry = .mk [] type := by
  unfold PlainEntry at plain
  split at plain
  · next name params results => exact .inl ⟨name, params, results, rfl, plain⟩
  · next name => exact .inr ⟨.ident name, rfl⟩
  · next qualifier name => exact .inr ⟨.selector qualifier name, rfl⟩
  · exact plain.elim

/-- A method never reads like an embedded type. -/
theorem method_append_ne_embedded {name : String} {signature : Signature} {type : Expr}
    {rest rest' : List Char} (plain : PlainName name) (go : GoType type)
    (closing : Closing rest') :
    name.toList ++ (signature.text.toList ++ rest) ≠ type.text.toList ++ rest' := by
  intro same
  rw [Signature.text_append] at same
  obtain ⟨-, rfl⟩ := plain.append_eq_text go (.cons rfl _) (by simp) closing same
  rcases closing with closers | ⟨_, brace⟩
  · exact absurd (closers '(' rfl) (by decide)
  · exact absurd (List.cons_eq_cons.mp brace).1 (by decide)

/-- An entry of an interface is determined by its text. -/
theorem entry_append_inj {entry other : Field} {rest rest' : List Char}
    (plain : PlainEntry entry) (plain' : PlainEntry other) (go : GoType entry.type)
    (go' : GoType other.type) (determined : Determined entry.type)
    (closing : Closing rest) (closing' : Closing rest')
    (same : entry.entryText.toList ++ rest = other.entryText.toList ++ rest') :
    entry = other ∧ rest = rest' := by
  rcases plain.cases with ⟨name, params, results, rfl, plainName⟩ | ⟨type, rfl⟩ <;>
    rcases plain'.cases with ⟨name', params', results', rfl, plainName'⟩ | ⟨type', rfl⟩
  · simp only [Field.entryText, String.toList_append, List.append_assoc] at same
    have divided : ∀ (signature : Signature) rest, Divided (signature.text.toList ++ rest) := by
      intro signature rest
      rw [Signature.text_append]
      exact .cons rfl _
    obtain ⟨rfl, sameSignature⟩ :=
      plainName.append_inj plainName' (divided _ _) (divided _ _) same
    -- Behind the word that opens a function type stands the text of its signature.
    have sameText :
        (Expr.func params results).text.toList ++ rest =
          (Expr.func params' results').text.toList ++ rest' := by
      rw [Expr.text_func_append, Expr.text_func_append, sameSignature]
    obtain ⟨sameType, sameRest⟩ := determined go' closing closing' sameText
    exact ⟨congrArg (Field.mk [name]) sameType, sameRest⟩
  · simp only [Field.entryText, String.toList_append, List.append_assoc] at same
    exact absurd same (method_append_ne_embedded plainName go' closing')
  · simp only [Field.entryText, String.toList_append, List.append_assoc] at same
    exact absurd same.symm (method_append_ne_embedded plainName' go closing)
  · obtain ⟨rfl, sameRest⟩ := determined go' closing closing' same
    exact ⟨rfl, sameRest⟩

/-- The entries of an interface are determined by their text. -/
theorem methods_append_inj {methods others : List Field} {rest rest' : List Char}
    (plain : ∀ entry ∈ methods, PlainEntry entry) (plain' : ∀ entry ∈ others, PlainEntry entry)
    (go : ∀ entry ∈ methods, GoType entry.type) (go' : ∀ entry ∈ others, GoType entry.type)
    (determined : ∀ entry ∈ methods, Determined entry.type)
    (same : (Expr.interface methods).text.toList ++ rest =
      (Expr.interface others).text.toList ++ rest') :
    methods = others ∧ rest = rest' := by
  cases methods with
  | nil =>
      cases others with
      | nil => simpa [Expr.text] using same
      | cons other others => simp [Expr.text] at same
  | cons entry methods =>
      cases others with
      | nil => simp [Expr.text] at same
      | cons other others =>
          rw [Expr.text_interface_append, Expr.text_interface_append, methodTexts_eq_map,
            methodTexts_eq_map] at same
          have closing : ∀ more, Closing (' ' :: '\x7d' :: more) := fun more => .inr ⟨more, rfl⟩
          obtain ⟨sameMethods, sameRest⟩ :=
            Text.join_append_inj Field.entryText "; " Closing
              (fun one inOnes two inTwos _ _ =>
                entry_append_inj (plain one inOnes) (plain' two inTwos) (go one inOnes)
                  (go' two inTwos) (determined one inOnes))
              (fun more => .cons (by decide) _) (closing rest) (closing rest') (by simp) (by simp)
              (List.append_cancel_left same)
          exact ⟨sameMethods, by simpa using sameRest⟩

/-! ## Types -/

/-- The length of an array ends at the first closing bracket. -/
theorem length_append_inj {length other : Option String} {rest rest' : List Char}
    (plain : ∀ text ∈ length, PlainLength text) (plain' : ∀ text ∈ other, PlainLength text)
    (same : (length.getD "").toList ++ ']' :: rest = (other.getD "").toList ++ ']' :: rest') :
    length = other ∧ rest = rest' := by
  have inside :
      ∀ {length : Option String}, (∀ text ∈ length, PlainLength text) →
        ∀ character ∈ (length.getD "").toList, (character != ']') = true := by
    intro length plain character member
    cases length with
    | none => exact nomatch member
    | some text =>
        have noBracket : ']' ∉ text.toList := (plain text rfl).2.2
        rw [bne_iff_ne]
        rintro rfl
        exact noBracket member
  obtain ⟨sameText, sameRest⟩ :=
    Text.append_inj_of_class (· != ']') (inside plain) (inside plain') (by simp) (by simp) same
  refine ⟨?_, (List.cons_eq_cons.mp sameRest).2⟩
  have sameLength : length.getD "" = other.getD "" := String.toList_inj.mp sameText
  cases length with
  | none =>
      cases other with
      | none => rfl
      | some text => exact absurd sameLength.symm (plain' text rfl).1
  | some text =>
      cases other with
      | none => exact absurd sameLength (plain text rfl).1
      | some other => exact congrArg some sameLength

/-- A Go type is determined by its source text. -/
theorem GoType.determined {type : Expr} (go : GoType type) : Determined type := by
  induction go with
  | ident plain =>
      intro other go' rest rest' closing closing' same
      obtain ⟨rfl, sameRest⟩ :=
        plain.append_eq_text go' closing.divided closing.head?_ne_point closing' same
      exact ⟨rfl, sameRest⟩
  | array plain inner ih =>
      intro other go' rest rest' closing closing' same
      have opening := (GoType.array plain inner).opening_eq go' closing closing' same
      cases go' with
      | array plain' inner' =>
          rw [Expr.text_array_append, Expr.text_array_append] at same
          obtain ⟨rfl, sameElement⟩ :=
            length_append_inj plain plain' (List.cons_eq_cons.mp same).2
          obtain ⟨rfl, sameRest⟩ := ih inner' closing closing' sameElement
          exact ⟨rfl, sameRest⟩
      | _ => exact nomatch opening
  | map first second keyDetermined valueDetermined =>
      intro other go' rest rest' closing closing' same
      have opening := (GoType.map first second).opening_eq go' closing closing' same
      cases go' with
      | map first' second' =>
          rw [Expr.text_map_append, Expr.text_map_append] at same
          have bracket : ∀ more, Closing (']' :: more) := Closing.cons (by decide)
          obtain ⟨rfl, sameValue⟩ :=
            keyDetermined first' (bracket _) (bracket _) (List.append_cancel_left same)
          obtain ⟨rfl, sameRest⟩ :=
            valueDetermined second' closing closing' (List.cons_eq_cons.mp sameValue).2
          exact ⟨rfl, sameRest⟩
      | _ => exact nomatch opening
  | pointer inner ih =>
      intro other go' rest rest' closing closing' same
      have opening := (GoType.pointer inner).opening_eq go' closing closing' same
      cases go' with
      | pointer inner' =>
          rw [Expr.text_pointer_append, Expr.text_pointer_append] at same
          obtain ⟨rfl, sameRest⟩ :=
            ih inner' closing closing' (List.cons_eq_cons.mp same).2
          exact ⟨rfl, sameRest⟩
      | _ => exact nomatch opening
  | selector plainQualifier plain =>
      intro other go' rest rest' closing closing' same
      have opening := (GoType.selector plainQualifier plain).opening_eq go' closing closing' same
      cases go' with
      | selector plainQualifier' plain' =>
          rw [Expr.text_selector_append, Expr.text_selector_append] at same
          obtain ⟨rfl, sameName⟩ :=
            plainQualifier.append_inj plainQualifier' (.cons rfl _) (.cons rfl _) same
          obtain ⟨rfl, sameRest⟩ :=
            plain.append_inj plain' closing.divided closing'.divided
              (List.cons_eq_cons.mp sameName).2
          exact ⟨rfl, sameRest⟩
      | _ => exact nomatch opening
  | variadic inner ih =>
      intro other go' rest rest' closing closing' same
      have opening := (GoType.variadic inner).opening_eq go' closing closing' same
      cases go' with
      | variadic inner' =>
          rw [Expr.text_variadic_append, Expr.text_variadic_append] at same
          obtain ⟨rfl, sameRest⟩ :=
            ih inner' closing closing' (List.append_cancel_left same)
          exact ⟨rfl, sameRest⟩
      | _ => exact nomatch opening
  | func plain types plainResults resultTypes paramsDetermined resultsDetermined =>
      intro other go' rest rest' closing closing' same
      have opening :=
        (GoType.func plain types plainResults resultTypes).opening_eq go' closing closing' same
      cases go' with
      | func plain' types' plainResults' resultTypes' =>
          rw [Expr.text_func_append, Expr.text_func_append] at same
          replace same := List.append_cancel_left same
          rw [Signature.text_append, Signature.text_append] at same
          obtain ⟨rfl, sameResults⟩ :=
            fields_append_inj plain plain' types types' paramsDetermined
              (List.cons_eq_cons.mp same).2
          obtain ⟨rfl, sameRest⟩ :=
            results_append_inj plainResults plainResults' resultTypes resultTypes'
              resultsDetermined closing closing' sameResults
          exact ⟨rfl, sameRest⟩
      | _ => exact nomatch opening
  | interface plain types ih =>
      intro other go' rest rest' closing closing' same
      have opening := (GoType.interface plain types).opening_eq go' closing closing' same
      cases go' with
      | interface plain' types' =>
          obtain ⟨rfl, sameRest⟩ := methods_append_inj plain plain' types types' ih same
          exact ⟨rfl, sameRest⟩
      | _ => exact nomatch opening

/-- Go types with the same source text are the same. -/
theorem text_injOn_goType : Set.InjOn Expr.text {type | GoType type} := by
  intro type go other go' same
  have nothing : Closing [] := .inl (by simp)
  have sameText : type.text.toList ++ [] = other.text.toList ++ [] := by rw [same]
  exact (GoType.determined go go' nothing nothing sameText).1

/-- The type of a callback, without names. -/
def visitType : Expr :=
  .func [.mk [] (.ident "int"), .mk [] (.array (.ident "byte") none)]
    (some [.mk [] (.ident "error")])

/-- An interface with a method between embedded types. -/
def closerType : Expr :=
  .interface
    [.mk [] (.selector (.ident "fmt") "Stringer"), .mk ["Close"] (.func [] none),
      .mk [] (.ident "comparable")]

/-- A function type with every kind of type inside. -/
def walkType : Expr :=
  .func
    [.mk ["first", "last"]
        (.map (.ident "string") (.array (.pointer (.selector (.ident "time") "Time")) (some "2"))),
      .mk ["visit"] visitType, .mk ["rest"] (.variadic closerType)]
    (some [.mk ["count"] (.ident "int"), .mk ["err"] (.interface [])])

theorem goType_visitType : GoType visitType := by
  refine .func (by decide +kernel) ?_ (by decide +kernel) ?_
  · simp only [List.forall_mem_cons, Field.type_mk]
    have bytes : GoType (.array (.ident "byte") none) :=
      .array (by decide +kernel) (.ident (by decide +kernel))
    exact ⟨.ident (by decide +kernel), bytes, by simp⟩
  · rintro fields ⟨⟩
    simp only [List.forall_mem_cons, Field.type_mk]
    exact ⟨.ident (by decide +kernel), by simp⟩

theorem goType_closerType : GoType closerType := by
  refine .interface ?_ ?_
  · simp only [List.forall_mem_cons, PlainEntry]
    exact ⟨trivial, by decide +kernel, trivial, by simp⟩
  · simp only [List.forall_mem_cons, Field.type_mk]
    exact ⟨.selector (by decide +kernel) (by decide +kernel),
      .func (by decide +kernel) (by simp) (by simp) (by simp), .ident (by decide +kernel), by simp⟩

theorem goType_walkType : GoType walkType := by
  refine .func (by decide +kernel) ?_ (by decide +kernel) ?_
  · simp only [List.forall_mem_cons, Field.type_mk]
    have time : GoType (.selector (.ident "time") "Time") :=
      .selector (by decide +kernel) (by decide +kernel)
    exact ⟨.map (.ident (by decide +kernel)) (.array (by decide +kernel) (.pointer time)),
      goType_visitType, .variadic goType_closerType, by simp⟩
  · rintro fields ⟨⟩
    simp only [List.forall_mem_cons, Field.type_mk]
    exact ⟨.ident (by decide +kernel), .interface (by simp) (by simp), by simp⟩

/-- The only Go type with a given text that uses every kind of type. -/
theorem text_injOn_goType_walk :
    GoType walkType ∧
      walkType.text =
        "func(first, last map[string][2]*time.Time, visit func(int, []byte) error, " ++
          "rest ...interface\x7b fmt.Stringer; Close(); comparable \x7d) " ++
          "(count int, err interface\x7b\x7d)" ∧
      ∀ other, GoType other → other.text = walkType.text → other = walkType :=
  ⟨goType_walkType, by decide +kernel,
    fun _ go' same => text_injOn_goType go' goType_walkType same⟩

-- Why a list of fields has to have names throughout or not at all, and results have to be there.
example :
    (Expr.func [.mk [] (.ident "a"), .mk ["b"] (.ident "int")] none).text =
      (Expr.func [.mk ["a", "b"] (.ident "int")] (some [])).text := by decide +kernel

end FuncAdapter
