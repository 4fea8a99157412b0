import FuncAdapter.Proofs.Syntax.RoundTrip

/-!
# The grammar of expressions in documents

The documents that stand for expressions are described by a table: for each of the nine tags, the
entries that an expression with this tag has and what each of them may hold.  Entries that the table
does not list are allowed anywhere and mean nothing.

A document that fits the table is read, and every other document is refused.  What was read is
written as the canonical form of the document: the listed entries in the order of the table, with an
empty list in place of names, parameters and methods that are absent.
-/

namespace FuncAdapter

/-! ## The grammar -/

/-- What an entry of a document may hold. -/
inductive Part where
  | text
  /-- A text, or nothing. -/
  | optionalText
  /-- A list of texts, where nothing stands for the empty list. -/
  | names
  | expression
  | field
  /-- A list of fields, where nothing stands for the empty list. -/
  | fields
  /-- A list of fields, or nothing. -/
  | optionalFields
  deriving DecidableEq, Repr

/-- The entries of an expression with a given tag. -/
def expressionParts? : String → Option (List (String × Part))
  | "Ident" => some [("name", .text)]
  | "ArrayType" => some [("elt", .expression), ("len", .optionalText)]
  | "MapType" => some [("key", .expression), ("value", .expression)]
  | "StarExpr" => some [("x", .expression)]
  | "SelectorExpr" => some [("x", .expression), ("sel", .text)]
  | "Ellipsis" => some [("elt", .expression)]
  | "FuncType" => some [("params", .fields), ("results", .optionalFields)]
  | "InterfaceType" => some [("methods", .fields)]
  | "Raw" => some [("text", .text)]
  | _ => none

/-- The entries of a field. -/
def fieldParts : List (String × Part) :=
  [("names", .names), ("type", .expression)]

/-- The documents that a part may be; an absent entry counts as null. -/
inductive Fits : Part → Document → Prop
  | text {value : String} : Fits .text (.text value)
  | noText : Fits .optionalText .null
  | someText {value : String} : Fits .optionalText (.text value)
  | noNames : Fits .names .null
  | names {items : List Document} (each : ∀ item ∈ items, Fits .text item) :
      Fits .names (.list items)
  | expression {entries : List (Label × Document)} {tag : String}
      {parts : List (String × Part)} (tagged : Document.valueAt "node" entries = .text tag)
      (known : expressionParts? tag = some parts)
      (each : ∀ part ∈ parts, Fits part.2 (Document.valueAt part.1 entries)) :
      Fits .expression (.map entries)
  | field {entries : List (Label × Document)}
      (each : ∀ part ∈ fieldParts, Fits part.2 (Document.valueAt part.1 entries)) :
      Fits .field (.map entries)
  | noFields : Fits .fields .null
  | fields {items : List Document} (each : ∀ item ∈ items, Fits .field item) :
      Fits .fields (.list items)
  | noOptionalFields : Fits .optionalFields .null
  | someFields {items : List Document} (each : ∀ item ∈ items, Fits .field item) :
      Fits .optionalFields (.list items)

/-! ## Canonical forms -/

theorem Document.sizeOf_valueAt_lt (label : String) (entries : List (Label × Document)) :
    sizeOf (Document.valueAt label entries) < 1 + sizeOf entries := by
  induction entries with
  | nil => simp
  | cons entry entries ih =>
      obtain ⟨other, document⟩ := entry
      rw [Document.valueAt_cons, List.cons.sizeOf_spec, Prod.mk.sizeOf_spec]
      split
      · omega
      · omega

/-- The parts that the tag of a document announces. -/
def announcedParts : Document → List (String × Part)
  | .text tag => (expressionParts? tag).getD []
  | _ => []

/--
The canonical form of a document that fits a part: listed entries only, in the order of the table,
and an empty list where nothing stands for one.
-/
def canonical : Part → Document → Document
  | .expression, .map entries =>
      let tag := Document.valueAt "node" entries
      .record (("node", tag) :: (announcedParts tag).map fun part =>
        (part.1, canonical part.2 (Document.valueAt part.1 entries)))
  | .field, .map entries =>
      .record (fieldParts.map fun part =>
        (part.1, canonical part.2 (Document.valueAt part.1 entries)))
  | .names, .null => .list []
  | .fields, .null => .list []
  | .fields, .list items => .list (items.map fun item => canonical .field item)
  | .optionalFields, .list items => .list (items.map fun item => canonical .field item)
  | _, document => document
termination_by _ document => sizeOf document
decreasing_by
  all_goals simp only [Document.map.sizeOf_spec, Document.list.sizeOf_spec]
  · exact Document.sizeOf_valueAt_lt _ _
  · exact Document.sizeOf_valueAt_lt _ _
  · exact Nat.lt_add_left 1 (List.sizeOf_lt_of_mem ‹_›)
  · exact Nat.lt_add_left 1 (List.sizeOf_lt_of_mem ‹_›)

/-! ## Documents that fit are read -/

/-- Reading a part of a document succeeds, and what was read is written in canonical form. -/
def ReadsCanonically : Part → Document → Prop
  | .text, document => ∃ text, document = .text text
  | .optionalText, document => ∃ text, document = optionalTextDocument text
  | .names, document =>
      ∀ entries, Document.valueAt "names" entries = document →
        ∃ names, fieldNamesOf entries = .ok names ∧
          textsDocument names = canonical .names document
  | .expression, document =>
      ∃ expr, Expr.ofDocument document = .ok expr ∧
        expr.toDocument = canonical .expression document
  | .field, document =>
      ∃ field, fieldOfDocument document = .ok field ∧
        fieldDocuments [field] = [canonical .field document]
  | .fields, document =>
      ∃ fields, fieldsOfDocument document = .ok fields ∧
        fieldsDocument fields = canonical .fields document
  | .optionalFields, document =>
      ∃ results, resultsOfDocument document = .ok results ∧
        resultsDocument results = canonical .optionalFields document

theorem exists_textsOf_eq_ok {items : List Document}
    (each : ∀ item ∈ items, ReadsCanonically .text item) :
    ∃ texts, textsOf items = .ok texts ∧ texts.map Document.text = items := by
  induction items with
  | nil => exact ⟨[], rfl, rfl⟩
  | cons item items ih =>
      obtain ⟨text, rfl⟩ := each item List.mem_cons_self
      obtain ⟨texts, read, same⟩ := ih fun item member => each item (List.mem_cons_of_mem _ member)
      refine ⟨text :: texts, ?_, by rw [List.map_cons, same]⟩
      rw [textsOf, read]
      rfl

theorem exists_fieldsOfItems_eq_ok {items : List Document}
    (each : ∀ item ∈ items, ReadsCanonically .field item) :
    ∃ fields, fieldsOfItems items = .ok fields ∧
      fieldDocuments fields = items.map fun item => canonical .field item := by
  induction items with
  | nil => exact ⟨[], rfl, rfl⟩
  | cons item items ih =>
      obtain ⟨field, read, written⟩ := each item List.mem_cons_self
      obtain ⟨fields, readLater, writtenLater⟩ :=
        ih fun item member => each item (List.mem_cons_of_mem _ member)
      refine ⟨field :: fields, ?_, ?_⟩
      · rw [fieldsOfItems, read, readLater]
        rfl
      · obtain ⟨names, type⟩ := field
        rw [fieldDocuments, fieldDocuments] at written
        rw [fieldDocuments, writtenLater, List.map_cons, (List.cons_eq_cons.mp written).1]

/-- An expression is read and written entry by entry. -/
theorem readsCanonically_expression {entries : List (Label × Document)} {tag : String}
    {parts : List (String × Part)} (tagged : Document.valueAt "node" entries = .text tag)
    (known : expressionParts? tag = some parts)
    (each : ∀ part ∈ parts, ReadsCanonically part.2 (Document.valueAt part.1 entries)) :
    ReadsCanonically .expression (.map entries) := by
  have canonicalForm :
      canonical .expression (.map entries) =
        .record (("node", .text tag) :: parts.map fun part =>
          (part.1, canonical part.2 (Document.valueAt part.1 entries))) := by
    rw [canonical, tagged, announcedParts, known, Option.getD_some]
  rw [ReadsCanonically, canonicalForm]
  -- One case for each tag, in the order of the table.
  unfold expressionParts? at known
  split at known <;> cases known <;> simp only [List.forall_mem_cons] at each
  · obtain ⟨⟨name, isName⟩, -⟩ := each
    refine ⟨.ident name, ?_, ?_⟩
    · simp [Expr.ofDocument, Document.requireText, tagged, isName]
    · simp [Expr.toDocument, canonical, isName]
  · obtain ⟨⟨element, read, written⟩, ⟨length, isLength⟩, -⟩ := each
    refine ⟨.array element length, ?_, ?_⟩
    · cases length <;>
        simp [Expr.ofDocument, Document.requireText, tagged, read, arrayLengthOf, isLength,
          optionalTextDocument]
    · simp [Expr.toDocument, written, canonical, isLength]
  · obtain ⟨⟨key, readKey, writtenKey⟩, ⟨value, readValue, writtenValue⟩, -⟩ := each
    refine ⟨.map key value, ?_, ?_⟩
    · simp [Expr.ofDocument, Document.requireText, tagged, readKey, readValue]
    · simp [Expr.toDocument, writtenKey, writtenValue]
  · obtain ⟨⟨target, read, written⟩, -⟩ := each
    refine ⟨.pointer target, ?_, ?_⟩
    · simp [Expr.ofDocument, Document.requireText, tagged, read]
    · simp [Expr.toDocument, written]
  · obtain ⟨⟨qualifier, read, written⟩, ⟨name, isName⟩, -⟩ := each
    refine ⟨.selector qualifier name, ?_, ?_⟩
    · simp [Expr.ofDocument, Document.requireText, tagged, read, isName]
    · simp [Expr.toDocument, written, canonical, isName]
  · obtain ⟨⟨element, read, written⟩, -⟩ := each
    refine ⟨.variadic element, ?_, ?_⟩
    · simp [Expr.ofDocument, Document.requireText, tagged, read]
    · simp [Expr.toDocument, written]
  · obtain ⟨⟨params, readParams, writtenParams⟩, ⟨results, readResults, writtenResults⟩, -⟩ := each
    refine ⟨.func params results, ?_, ?_⟩
    · simp [Expr.ofDocument, Document.requireText, tagged, readParams, readResults]
    · simp [Expr.toDocument, ← writtenParams, fieldsDocument, writtenResults]
  · obtain ⟨⟨methods, read, written⟩, -⟩ := each
    refine ⟨.interface methods, ?_, ?_⟩
    · simp [Expr.ofDocument, Document.requireText, tagged, read]
    · simp [Expr.toDocument, ← written, fieldsDocument]
  · obtain ⟨⟨text, isText⟩, -⟩ := each
    refine ⟨.raw text, ?_, ?_⟩
    · simp [Expr.ofDocument, Document.requireText, tagged, isText]
    · simp [Expr.toDocument, canonical, isText]

/-- A document that fits a part is read as that part, and written in canonical form. -/
theorem Fits.readsCanonically {part : Part} {document : Document} (fits : Fits part document) :
    ReadsCanonically part document := by
  induction fits with
  | text => exact ⟨_, rfl⟩
  | noText => exact ⟨none, rfl⟩
  | @someText value => exact ⟨some value, rfl⟩
  | noNames =>
      intro entries found
      refine ⟨[], by rw [fieldNamesOf, found], ?_⟩
      rw [canonical]
      rfl
  | names _ each =>
      intro entries found
      obtain ⟨texts, read, same⟩ := exists_textsOf_eq_ok each
      refine ⟨texts, by rw [fieldNamesOf, found]; exact read, ?_⟩
      rw [canonical, textsDocument, same]
      all_goals simp
  | expression tagged known _ each => exact readsCanonically_expression tagged known each
  | @field entries _ each =>
      simp only [fieldParts, List.forall_mem_cons] at each
      obtain ⟨readsNames, ⟨type, readType, writtenType⟩, -⟩ := each
      obtain ⟨names, readNames, writtenNames⟩ := readsNames entries rfl
      refine ⟨.mk names type, ?_, ?_⟩
      · simp [fieldOfDocument, readNames, readType]
      · simp [fieldDocuments, canonical, fieldParts, writtenNames, writtenType]
  | noFields =>
      refine ⟨[], rfl, ?_⟩
      rw [canonical]
      rfl
  | fields _ each =>
      obtain ⟨fields, read, written⟩ := exists_fieldsOfItems_eq_ok each
      refine ⟨fields, read, ?_⟩
      rw [canonical, fieldsDocument, written]
  | noOptionalFields =>
      refine ⟨none, rfl, ?_⟩
      rw [canonical]
      · rfl
      all_goals simp
  | someFields _ each =>
      obtain ⟨fields, read, written⟩ := exists_fieldsOfItems_eq_ok each
      refine ⟨some fields, ?_, ?_⟩
      · rw [resultsOfDocument, read]
        rfl
      · rw [canonical, resultsDocument, written]

/-! ## Documents that are read fit -/

/-- Induction on a document, where what holds of all entries of a map holds of the map. -/
theorem Document.induction_on_parts {holds : Document → Prop}
    (map : ∀ entries, (∀ label, holds (Document.valueAt label entries)) → holds (.map entries))
    (list : ∀ items, (∀ item ∈ items, holds item) → holds (.list items))
    (other : ∀ document : Document, document.shape ≠ .map → document.shape ≠ .list →
      holds document) :
    (document : Document) → holds document
  | .map entries =>
      map entries fun label =>
        have := Document.sizeOf_valueAt_lt label entries
        Document.induction_on_parts map list other (Document.valueAt label entries)
  | .list items =>
      list items fun item member =>
        have := List.sizeOf_lt_of_mem member
        Document.induction_on_parts map list other item
  | .null | .boolean _ | .integer _ | .real _ | .text _ | .bytes _ | .extension _ _
  | .timestamp _ _ => other _ (by simp [shape]) (by simp [shape])
termination_by document => sizeOf document

/-- Whatever is read from a document fits the part that it is read as. -/
structure FitsWhereRead (document : Document) : Prop where
  expression : ∀ expr, Expr.ofDocument document = .ok expr → Fits .expression document
  field : ∀ field, fieldOfDocument document = .ok field → Fits .field document
  fields : ∀ fields, fieldsOfDocument document = .ok fields → Fits .fields document
  optionalFields :
    ∀ results, resultsOfDocument document = .ok results → Fits .optionalFields document

theorem valueAt_of_requireText {label : String} {entries : List (Label × Document)}
    {text : String} (read : Document.requireText label entries = .ok text) :
    Document.valueAt label entries = .text text := by
  unfold Document.requireText at read
  split at read
  · next found =>
      cases read
      exact found
  · cases read

theorem fits_of_requireText {label : String} {entries : List (Label × Document)}
    {text : String} (read : Document.requireText label entries = .ok text) :
    Fits .text (Document.valueAt label entries) := by
  rw [valueAt_of_requireText read]
  exact .text

theorem fits_of_arrayLengthOf {entries : List (Label × Document)} {length : Option String}
    (read : arrayLengthOf entries = .ok length) :
    Fits .optionalText (Document.valueAt "len" entries) := by
  unfold arrayLengthOf at read
  split at read
  · next found =>
      rw [found]
      exact .noText
  · next found =>
      rw [found]
      exact .someText
  · cases read

theorem fits_of_textsOf {items : List Document} {texts : List String}
    (read : textsOf items = .ok texts) :
    ∀ item ∈ items, Fits .text item := by
  induction items generalizing texts with
  | nil => exact fun item member => nomatch member
  | cons item items ih =>
      cases item with
      | text text =>
          obtain ⟨later, readLater, -⟩ := exists_of_bind_eq_ok read
          exact List.forall_mem_cons.mpr ⟨.text, ih readLater⟩
      | _ => exact nomatch read

theorem fits_of_fieldNamesOf {entries : List (Label × Document)} {names : List String}
    (read : fieldNamesOf entries = .ok names) :
    Fits .names (Document.valueAt "names" entries) := by
  unfold fieldNamesOf at read
  split at read
  · next found =>
      rw [found]
      exact .noNames
  · next items found =>
      rw [found]
      exact .names (fits_of_textsOf read)
  · cases read

theorem fits_of_fieldsOfItems {items : List Document} {fields : List Field}
    (each : ∀ item ∈ items, FitsWhereRead item) (read : fieldsOfItems items = .ok fields) :
    ∀ item ∈ items, Fits .field item := by
  induction items generalizing fields with
  | nil => exact fun item member => nomatch member
  | cons item items ih =>
      rw [fieldsOfItems] at read
      obtain ⟨field, readField, read⟩ := exists_of_bind_eq_ok read
      obtain ⟨later, readLater, -⟩ := exists_of_bind_eq_ok read
      rw [List.forall_mem_cons] at each ⊢
      exact ⟨each.1.field field readField, ih each.2 readLater⟩

/-- An expression is read only if all entries of its tag are. -/
theorem fits_of_ofDocument_map {entries : List (Label × Document)} {expr : Expr}
    (inner : ∀ label, FitsWhereRead (Document.valueAt label entries))
    (read : Expr.ofDocument (.map entries) = .ok expr) :
    Fits .expression (.map entries) := by
  rw [Expr.ofDocument] at read
  obtain ⟨tag, readTag, read⟩ := exists_of_bind_eq_ok read
  have tagged := valueAt_of_requireText readTag
  simp only [exprAt_eq, fieldsAt_eq, resultsAt_eq] at read
  -- One case for each tag, in the order in which the reader tries them.
  split at read
  · obtain ⟨name, readName, -⟩ := exists_of_bind_eq_ok read
    refine .expression tagged rfl ?_
    simp only [List.forall_mem_cons]
    exact ⟨fits_of_requireText readName, by simp⟩
  · obtain ⟨length, readLength, read⟩ := exists_of_bind_eq_ok read
    obtain ⟨element, readElement, -⟩ := exists_of_bind_eq_ok read
    refine .expression tagged rfl ?_
    simp only [List.forall_mem_cons]
    exact ⟨(inner "elt").expression element readElement, fits_of_arrayLengthOf readLength, by simp⟩
  · obtain ⟨key, readKey, read⟩ := exists_of_bind_eq_ok read
    obtain ⟨value, readValue, -⟩ := exists_of_bind_eq_ok read
    refine .expression tagged rfl ?_
    simp only [List.forall_mem_cons]
    exact ⟨(inner "key").expression key readKey, (inner "value").expression value readValue,
      by simp⟩
  · obtain ⟨target, readTarget, -⟩ := exists_of_bind_eq_ok read
    refine .expression tagged rfl ?_
    simp only [List.forall_mem_cons]
    exact ⟨(inner "x").expression target readTarget, by simp⟩
  · obtain ⟨qualifier, readQualifier, read⟩ := exists_of_bind_eq_ok read
    obtain ⟨name, readName, -⟩ := exists_of_bind_eq_ok read
    refine .expression tagged rfl ?_
    simp only [List.forall_mem_cons]
    exact ⟨(inner "x").expression qualifier readQualifier, fits_of_requireText readName, by simp⟩
  · obtain ⟨element, readElement, -⟩ := exists_of_bind_eq_ok read
    refine .expression tagged rfl ?_
    simp only [List.forall_mem_cons]
    exact ⟨(inner "elt").expression element readElement, by simp⟩
  · obtain ⟨params, readParams, read⟩ := exists_of_bind_eq_ok read
    obtain ⟨results, readResults, -⟩ := exists_of_bind_eq_ok read
    refine .expression tagged rfl ?_
    simp only [List.forall_mem_cons]
    exact ⟨(inner "params").fields params readParams,
      (inner "results").optionalFields results readResults, by simp⟩
  · obtain ⟨methods, readMethods, -⟩ := exists_of_bind_eq_ok read
    refine .expression tagged rfl ?_
    simp only [List.forall_mem_cons]
    exact ⟨(inner "methods").fields methods readMethods, by simp⟩
  · obtain ⟨text, readText, -⟩ := exists_of_bind_eq_ok read
    refine .expression tagged rfl ?_
    simp only [List.forall_mem_cons]
    exact ⟨fits_of_requireText readText, by simp⟩
  · cases read

/-- A document is read as a part only if it fits the part. -/
theorem fitsWhereRead (document : Document) : FitsWhereRead document := by
  induction document using Document.induction_on_parts with
  | map entries inner =>
      refine ⟨fun expr read => fits_of_ofDocument_map inner read, ?_, ?_, ?_⟩
      · intro field read
        obtain ⟨names, readNames, read⟩ := exists_of_bind_eq_ok read
        obtain ⟨type, readType, -⟩ := exists_of_bind_eq_ok read
        rw [exprAt_eq] at readType
        refine .field ?_
        simp only [fieldParts, List.forall_mem_cons]
        exact ⟨fits_of_fieldNamesOf readNames, (inner "type").expression type readType, by simp⟩
      · exact nofun
      · exact nofun
  | list items inner =>
      refine ⟨nofun, nofun, ?_, ?_⟩
      · intro fields read
        exact .fields (fits_of_fieldsOfItems inner read)
      · intro results read
        obtain ⟨fields, readFields, -⟩ := exists_of_bind_eq_ok read
        exact .someFields (fits_of_fieldsOfItems inner readFields)
  | other document notMap notList =>
      cases document with
      | map => exact absurd rfl notMap
      | list => exact absurd rfl notList
      | null =>
          exact ⟨nofun, nofun, fun _ _ => .noFields, fun _ _ => .noOptionalFields⟩
      | _ => exact ⟨nofun, nofun, nofun, nofun⟩

/-- Only documents of the grammar are read as expressions, and they are written canonically. -/
theorem Expr.fits_and_canonical_of_ofDocument {document : Document} {expr : Expr}
    (read : Expr.ofDocument document = .ok expr) :
    Fits .expression document ∧ expr.toDocument = canonical .expression document := by
  have fits := (fitsWhereRead document).expression expr read
  obtain ⟨other, readOther, written⟩ := fits.readsCanonically
  rw [read] at readOther
  cases readOther
  exact ⟨fits, written⟩

theorem fits_and_canonical_of_resultsOfDocument {document : Document}
    {results : Option (List Field)} (read : resultsOfDocument document = .ok results) :
    Fits .optionalFields document ∧
      resultsDocument results = canonical .optionalFields document := by
  have fits := (fitsWhereRead document).optionalFields results read
  obtain ⟨other, readOther, written⟩ := fits.readsCanonically
  rw [read] at readOther
  cases readOther
  exact ⟨fits, written⟩

end FuncAdapter
