import FuncAdapter.Syntax.Encoding

/-!
# Reading expressions back from documents

An expression without calls and missing nodes is read back from its document, and no other
expression is read from any document.  Both facts hold of fields and of result lists too, and are
proved together with them.
-/

namespace FuncAdapter

/-- A computation in two parts succeeds only if both parts do. -/
theorem exists_of_bind_eq_ok {error first second : Type}
    {start : Except error first} {next : first → Except error second} {result : second}
    (succeeds : start >>= next = .ok result) :
    ∃ value, start = .ok value ∧ next value = .ok result := by
  cases start with
  | error problem => exact nomatch succeeds
  | ok value => exact ⟨value, rfl, succeeds⟩

@[simp]
theorem mapError_ok {first second value : Type} (change : first → second) (result : value) :
    (Except.ok result).mapError change = .ok result := rfl

@[simp]
theorem mapError_error {first second value : Type} (change : first → second) (problem : first) :
    (Except.error problem : Except first value).mapError change = .error (change problem) := rfl

/-- What an error is called does not matter to a computation that succeeds. -/
theorem mapError_eq_ok_iff {first second value : Type} {start : Except first value}
    {change : first → second} {result : value} :
    start.mapError change = .ok result ↔ start = .ok result := by
  cases start <;> simp

/-- A computation in two parts fails in the first part, or in the second after the first. -/
theorem bind_eq_error_iff {error first second : Type}
    {start : Except error first} {next : first → Except error second} {problem : error} :
    start >>= next = .error problem ↔
      start = .error problem ∨ ∃ value, start = .ok value ∧ next value = .error problem := by
  cases start <;> simp [Bind.bind, Except.bind]

theorem mapError_eq_error_iff {first second value : Type} {start : Except first value}
    {change : first → second} {problem : second} :
    start.mapError change = .error problem ↔
      ∃ cause, start = .error cause ∧ change cause = problem := by
  cases start <;> simp

@[simp]
theorem ok_bind {error first second : Type} (value : first) (next : first → Except error second) :
    (Except.ok value >>= next) = next value := rfl

@[simp]
theorem pure_eq_ok {error value : Type} (result : value) :
    (pure result : Except error value) = .ok result := rfl

/-! ## Entries of a record -/

@[simp]
theorem Document.valueAt_nil (label : String) : Document.valueAt label [] = .null := rfl

@[simp]
theorem Document.valueAt_cons
    (label : String) (other : Label) (document : Document)
    (entries : List (Label × Document)) :
    Document.valueAt label ((other, document) :: entries) =
      if other = .text label then document else Document.valueAt label entries := by
  rw [Document.valueAt, Entries.find?]
  split
  · rfl
  · rfl

/-- An expression under a label is read from the value there, where no entry counts as null. -/
@[simp]
theorem exprAt_eq (label : String) (entries : List (Label × Document)) :
    exprAt label entries = Expr.ofDocument (Document.valueAt label entries) := by
  induction entries with
  | nil => simp [exprAt, Expr.ofDocument, Document.shape]
  | cons entry entries ih =>
      rw [exprAt, Document.valueAt_cons, ih]
      split
      · rfl
      · rfl

@[simp]
theorem fieldsAt_eq (label : String) (entries : List (Label × Document)) :
    fieldsAt label entries = fieldsOfDocument (Document.valueAt label entries) := by
  induction entries with
  | nil => simp [fieldsAt, fieldsOfDocument]
  | cons entry entries ih =>
      rw [fieldsAt, Document.valueAt_cons, ih]
      split
      · rfl
      · rfl

@[simp]
theorem resultsAt_eq (label : String) (entries : List (Label × Document)) :
    resultsAt label entries = resultsOfDocument (Document.valueAt label entries) := by
  induction entries with
  | nil => simp [resultsAt, resultsOfDocument]
  | cons entry entries ih =>
      rw [resultsAt, Document.valueAt_cons, ih]
      split
      · rfl
      · rfl

@[simp]
theorem textsOf_map_text (texts : List String) : textsOf (texts.map Document.text) = .ok texts := by
  induction texts with
  | nil => rfl
  | cons text texts ih =>
      rw [List.map_cons, textsOf, ih]
      rfl

/-! ## Reading what was written -/

mutual

/-- An expression without calls and missing nodes is read back from its document. -/
theorem Expr.ofDocument_toDocument :
    (expr : Expr) → expr.foreign? = none → Expr.ofDocument expr.toDocument = .ok expr
  | .ident name, _ => rfl
  | .array element length, plain => by
      have inner := Expr.ofDocument_toDocument element plain
      cases length <;>
        simp [Expr.toDocument, Document.record, Expr.ofDocument, Document.requireText,
          arrayLengthOf, optionalTextDocument, inner]
  | .map key value, plain => by
      have both : key.foreign? = none ∧ value.foreign? = none := by
        simpa [Expr.foreign?] using plain
      have first := Expr.ofDocument_toDocument key both.1
      have second := Expr.ofDocument_toDocument value both.2
      simp [Expr.toDocument, Document.record, Expr.ofDocument, Document.requireText, first,
        second]
  | .pointer target, plain => by
      have inner := Expr.ofDocument_toDocument target plain
      simp [Expr.toDocument, Document.record, Expr.ofDocument, Document.requireText, inner]
  | .selector qualifier name, plain => by
      have inner := Expr.ofDocument_toDocument qualifier plain
      simp [Expr.toDocument, Document.record, Expr.ofDocument, Document.requireText, inner]
  | .variadic element, plain => by
      have inner := Expr.ofDocument_toDocument element plain
      simp [Expr.toDocument, Document.record, Expr.ofDocument, Document.requireText, inner]
  | .func params results, plain => by
      have both : fieldsForeign? params = none ∧ resultsForeign? results = none := by
        simpa [Expr.foreign?] using plain
      have first := fieldsOfItems_fieldDocuments params both.1
      have second := resultsOfDocument_resultsDocument results both.2
      simp [Expr.toDocument, Document.record, Expr.ofDocument, Document.requireText,
        fieldsOfDocument, first, second]
  | .interface methods, plain => by
      have inner := fieldsOfItems_fieldDocuments methods plain
      simp [Expr.toDocument, Document.record, Expr.ofDocument, Document.requireText,
        fieldsOfDocument, inner]
  | .raw text, _ => rfl
  | .call _ _ _, plain => nomatch plain
  | .missing, plain => nomatch plain

/-- Fields are read back from their documents. -/
theorem fieldsOfItems_fieldDocuments :
    (fields : List Field) → fieldsForeign? fields = none →
      fieldsOfItems (fieldDocuments fields) = .ok fields
  | [], _ => rfl
  | .mk names type :: fields, plain => by
      have both : type.foreign? = none ∧ fieldsForeign? fields = none := by
        simpa [fieldsForeign?] using plain
      have first := Expr.ofDocument_toDocument type both.1
      have later := fieldsOfItems_fieldDocuments fields both.2
      simp [fieldDocuments, Document.record, fieldsOfItems, fieldOfDocument, fieldNamesOf,
        textsDocument, first, later]

/-- A result list is read back from its document, and no list differs from an empty one. -/
theorem resultsOfDocument_resultsDocument :
    (results : Option (List Field)) → resultsForeign? results = none →
      resultsOfDocument (resultsDocument results) = .ok results
  | none, _ => rfl
  | some fields, plain => by
      have inner := fieldsOfItems_fieldDocuments fields plain
      rw [resultsDocument, resultsOfDocument, inner]
      rfl

end

/-! ## What can be read -/

mutual

/-- An expression that was read has no calls and no missing nodes. -/
theorem Expr.foreign?_of_ofDocument :
    (document : Document) → {expr : Expr} → Expr.ofDocument document = .ok expr →
      expr.foreign? = none
  | .map entries, expr, read => by
      rw [Expr.ofDocument] at read
      obtain ⟨tag, -, read⟩ := exists_of_bind_eq_ok read
      -- One case for each tag, in the order in which the reader tries them.
      split at read
      · obtain ⟨name, -, read⟩ := exists_of_bind_eq_ok read
        cases read
        rfl
      · obtain ⟨length, -, read⟩ := exists_of_bind_eq_ok read
        obtain ⟨element, readElement, read⟩ := exists_of_bind_eq_ok read
        cases read
        rw [Expr.foreign?]
        exact foreign?_of_exprAt entries readElement
      · obtain ⟨key, readKey, read⟩ := exists_of_bind_eq_ok read
        obtain ⟨value, readValue, read⟩ := exists_of_bind_eq_ok read
        cases read
        simp [Expr.foreign?, foreign?_of_exprAt entries readKey,
          foreign?_of_exprAt entries readValue]
      · obtain ⟨target, readTarget, read⟩ := exists_of_bind_eq_ok read
        cases read
        rw [Expr.foreign?]
        exact foreign?_of_exprAt entries readTarget
      · obtain ⟨qualifier, readQualifier, read⟩ := exists_of_bind_eq_ok read
        obtain ⟨name, -, read⟩ := exists_of_bind_eq_ok read
        cases read
        rw [Expr.foreign?]
        exact foreign?_of_exprAt entries readQualifier
      · obtain ⟨element, readElement, read⟩ := exists_of_bind_eq_ok read
        cases read
        rw [Expr.foreign?]
        exact foreign?_of_exprAt entries readElement
      · obtain ⟨params, readParams, read⟩ := exists_of_bind_eq_ok read
        obtain ⟨results, readResults, read⟩ := exists_of_bind_eq_ok read
        cases read
        simp [Expr.foreign?, fieldsForeign?_of_fieldsAt entries readParams,
          resultsForeign?_of_resultsAt entries readResults]
      · obtain ⟨methods, readMethods, read⟩ := exists_of_bind_eq_ok read
        cases read
        exact fieldsForeign?_of_fieldsAt entries readMethods
      · obtain ⟨text, -, read⟩ := exists_of_bind_eq_ok read
        cases read
        rfl
      · exact nomatch read
  | .null, _, read | .boolean _, _, read | .integer _, _, read | .real _, _, read
  | .text _, _, read | .bytes _, _, read | .extension _ _, _, read | .timestamp _ _, _, read
  | .list _, _, read => nomatch read

theorem foreign?_of_exprAt {label : String} :
    (entries : List (Label × Document)) → {expr : Expr} → exprAt label entries = .ok expr →
      expr.foreign? = none
  | [], _, read => nomatch read
  | (other, document) :: entries, expr, read => by
      rw [exprAt] at read
      split at read
      · exact Expr.foreign?_of_ofDocument document read
      · exact foreign?_of_exprAt entries read

theorem fieldsForeign?_of_fieldsAt {label : String} :
    (entries : List (Label × Document)) → {fields : List Field} →
      fieldsAt label entries = .ok fields → fieldsForeign? fields = none
  | [], fields, read => by
      cases read
      rfl
  | (other, document) :: entries, fields, read => by
      rw [fieldsAt] at read
      split at read
      · exact fieldsForeign?_of_fieldsOfDocument document read
      · exact fieldsForeign?_of_fieldsAt entries read

theorem resultsForeign?_of_resultsAt {label : String} :
    (entries : List (Label × Document)) → {results : Option (List Field)} →
      resultsAt label entries = .ok results → resultsForeign? results = none
  | [], results, read => by
      cases read
      rfl
  | (other, document) :: entries, results, read => by
      rw [resultsAt] at read
      split at read
      · exact resultsForeign?_of_resultsOfDocument document read
      · exact resultsForeign?_of_resultsAt entries read

theorem fieldsForeign?_of_fieldsOfDocument :
    (document : Document) → {fields : List Field} → fieldsOfDocument document = .ok fields →
      fieldsForeign? fields = none
  | .null, fields, read => by
      cases read
      rfl
  | .list items, fields, read => fieldsForeign?_of_fieldsOfItems items read
  | .boolean _, _, read | .integer _, _, read | .real _, _, read | .text _, _, read
  | .bytes _, _, read | .extension _ _, _, read | .timestamp _ _, _, read
  | .map _, _, read => nomatch read

theorem resultsForeign?_of_resultsOfDocument :
    (document : Document) → {results : Option (List Field)} →
      resultsOfDocument document = .ok results → resultsForeign? results = none
  | .null, results, read => by
      cases read
      rfl
  | .list items, results, read => by
      obtain ⟨fields, readFields, read⟩ := exists_of_bind_eq_ok read
      cases read
      exact fieldsForeign?_of_fieldsOfItems items readFields
  | .boolean _, _, read | .integer _, _, read | .real _, _, read | .text _, _, read
  | .bytes _, _, read | .extension _ _, _, read | .timestamp _ _, _, read
  | .map _, _, read => nomatch read

theorem fieldsForeign?_of_fieldsOfItems :
    (items : List Document) → {fields : List Field} → fieldsOfItems items = .ok fields →
      fieldsForeign? fields = none
  | [], fields, read => by
      cases read
      rfl
  | item :: items, fields, read => by
      rw [fieldsOfItems] at read
      obtain ⟨field, readField, read⟩ := exists_of_bind_eq_ok read
      obtain ⟨later, readLater, read⟩ := exists_of_bind_eq_ok read
      cases read
      obtain ⟨names, type⟩ := field
      have first : type.foreign? = none := foreign?_of_fieldOfDocument item readField
      simp [fieldsForeign?, first, fieldsForeign?_of_fieldsOfItems items readLater]

theorem foreign?_of_fieldOfDocument :
    (document : Document) → {field : Field} → fieldOfDocument document = .ok field →
      field.type.foreign? = none
  | .map entries, field, read => by
      rw [fieldOfDocument] at read
      obtain ⟨names, -, read⟩ := exists_of_bind_eq_ok read
      obtain ⟨type, readType, read⟩ := exists_of_bind_eq_ok read
      cases read
      exact foreign?_of_exprAt entries readType
  | .null, _, read | .boolean _, _, read | .integer _, _, read | .real _, _, read
  | .text _, _, read | .bytes _, _, read | .extension _ _, _, read | .timestamp _ _, _, read
  | .list _, _, read => nomatch read

end

end FuncAdapter
