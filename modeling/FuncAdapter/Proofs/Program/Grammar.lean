import FuncAdapter.Proofs.Program.Listing
import FuncAdapter.Proofs.Syntax.Grammar

/-!
# The grammar of programs in documents

A document stands for a program if it is a map of packages, which are maps of files, which are maps
of objects, and if every object has a kind and no declaration or one that fits the grammar.  Exactly
these documents are read; every other document is refused.

What was read is written in canonical form.  Maps of packages, files and objects keep their entries
in order.  If a document gives a label twice, the place of the first entry and the value of the last
one count.
-/

namespace FuncAdapter

/-! ## The grammar -/

/-- The entries of a declared type. -/
def declarationParts : List (String × Part) :=
  [("name", .text), ("type", .expression), ("type_params", .optionalFields)]

/-- The documents of declarations, which may be absent. -/
inductive FitsDeclaration : Document → Prop
  | absent : FitsDeclaration .null
  | present {entries : List (Label × Document)}
      (each : ∀ part ∈ declarationParts, Fits part.2 (Document.valueAt part.1 entries)) :
      FitsDeclaration (.map entries)

/-- The documents of objects. -/
inductive FitsObject : Document → Prop
  | object {entries : List (Label × Document)} {kind : String}
      (kinded : Document.valueAt "kind" entries = .text kind)
      (known : kind ∈ ["type", "func", "var", "const"])
      (decl : FitsDeclaration (Document.valueAt "decl" entries)) :
      FitsObject (.map entries)

/-- The documents that hold a map under a label, all of whose values fit. -/
inductive FitsTable (label : String) (fits : Document → Prop) : Document → Prop
  | table {entries inner : List (Label × Document)}
      (found : Document.valueAt label entries = .map inner)
      (each : ∀ entry ∈ inner, fits entry.2) :
      FitsTable label fits (.map entries)

/-- The documents of files. -/
def FitsFile : Document → Prop := FitsTable "objects" FitsObject

/-- The documents of packages. -/
def FitsPackage : Document → Prop := FitsTable "files" FitsFile

/-- The documents of programs. -/
def FitsProgram : Document → Prop := FitsTable "packages" FitsPackage

/-! ## Canonical forms -/

/-- The entries of a document, none if it is no map. -/
def Document.entries : Document → List (Label × Document)
  | .map entries => entries
  | _ => []

/-- The table that a document holds under a label, in which the last value of a label counts. -/
def Document.table (label : String) (document : Document) : List (Label × Document) :=
  Entries.collect (Document.valueAt label document.entries).entries

/-- The canonical form of a declaration, as an entry of its object; null is left out. -/
def canonicalDeclaration : Document → List (String × Document)
  | .map entries =>
      [("decl", .record (declarationParts.map fun part =>
        (part.1, canonical part.2 (Document.valueAt part.1 entries))))]
  | _ => []

/-- The canonical form of an object. -/
def canonicalObject (document : Document) : Document :=
  .record (("kind", Document.valueAt "kind" document.entries) ::
    canonicalDeclaration (Document.valueAt "decl" document.entries))

/-- The canonical form of a table, given that of its values. -/
def canonicalTable (label : String) (value : Document → Document) (document : Document) :
    Document :=
  .record [(label, .map ((document.table label).map fun entry => (entry.1, value entry.2)))]

/-- The canonical form of a file. -/
def canonicalFile : Document → Document := canonicalTable "objects" canonicalObject

/-- The canonical form of a package. -/
def canonicalPackage : Document → Document := canonicalTable "files" canonicalFile

/-- The canonical form of a program. -/
def canonicalProgram : Document → Document := canonicalTable "packages" canonicalPackage

/-! ## Tables -/

namespace Entries

variable {label : Type} {value other : Type} [DecidableEq label]

theorem store_map (change : value → other) (key : label) (new : value)
    (entries : List (label × value)) :
    store key (change new) (entries.map fun entry => (entry.1, change entry.2)) =
      (store key new entries).map fun entry => (entry.1, change entry.2) := by
  induction entries with
  | nil => rfl
  | cons entry entries ih =>
      rw [List.map_cons, store, store]
      split
      · rfl
      · rw [ih, List.map_cons]

theorem foldl_store_map (change : value → other) (entries start : List (label × value)) :
    (entries.map fun entry => (entry.1, change entry.2)).foldl
        (fun collected entry => store entry.1 entry.2 collected)
        (start.map fun entry => (entry.1, change entry.2)) =
      (entries.foldl (fun collected entry => store entry.1 entry.2 collected) start).map
        fun entry => (entry.1, change entry.2) := by
  induction entries generalizing start with
  | nil => rfl
  | cons entry entries ih =>
      rw [List.map_cons, List.foldl_cons, List.foldl_cons, ← ih, ← store_map]

/-- Values may be changed before or after they are collected. -/
theorem collect_map (change : value → other) (entries : List (label × value)) :
    collect (entries.map fun entry => (entry.1, change entry.2)) =
      (collect entries).map fun entry => (entry.1, change entry.2) :=
  foldl_store_map change entries []

end Entries

section Tables

variable {value image : Type} {label : String}
  {read : Label → Document → Except Malformed value}

theorem requireMap_eq_ok_iff {document : Document} {inner : List (Label × Document)} :
    Document.requireMap label document = .ok inner ↔
      ∃ entries, document = .map entries ∧ Document.valueAt label entries = .map inner := by
  cases document with
  | map entries =>
      rw [Document.requireMap]
      split <;> simp_all
  | _ => simp [Document.requireMap]

theorem map_readEntries {ofValue : value → image} {ofDocument : Document → image}
    (each : ∀ name document stored, read name document = .ok stored →
      ofValue stored = ofDocument document)
    {entries : List (Label × Document)} {values : List (Label × value)}
    (succeeds : readEntries read entries = .ok values) :
    (values.map fun entry => (entry.1, ofValue entry.2)) =
      entries.map fun entry => (entry.1, ofDocument entry.2) := by
  induction entries generalizing values with
  | nil =>
      cases succeeds
      rfl
  | cons entry entries ih =>
      obtain ⟨first, readFirst, succeeds⟩ := exists_of_bind_eq_ok succeeds
      obtain ⟨later, readLater, succeeds⟩ := exists_of_bind_eq_ok succeeds
      cases succeeds
      rw [List.map_cons, List.map_cons, ih readLater, each _ _ _ readFirst]

/-- What is the same of every value and its document is the same of a table and its document. -/
theorem map_tableOf {ofValue : value → image} {ofDocument : Document → image}
    (each : ∀ name document stored, read name document = .ok stored →
      ofValue stored = ofDocument document)
    {document : Document} {table : Table Label value}
    (succeeds : tableOf label read document = .ok table) :
    (table.entries.map fun entry => (entry.1, ofValue entry.2)) =
      (document.table label).map fun entry => (entry.1, ofDocument entry.2) := by
  obtain ⟨inner, found, succeeds⟩ := exists_of_bind_eq_ok succeeds
  obtain ⟨values, readValues, succeeds⟩ := exists_of_bind_eq_ok succeeds
  cases succeeds
  obtain ⟨entries, rfl, isTable⟩ := requireMap_eq_ok_iff.mp found
  have sameTable : (Document.map entries).table label = Entries.collect inner := by
    rw [Document.table, Document.entries, isTable, Document.entries]
  have sameEntries := map_readEntries each readValues
  rw [sameTable, ← Entries.collect_map, ← sameEntries, Entries.collect_map]
  rfl

end Tables

/-! ## Readers and their grammars -/

/--
A reader accepts exactly the documents that fit, and what it reads is written in canonical form.
-/
structure ReadsExactly {value : Type} (read : Label → Document → Except Malformed value)
    (fits : Document → Prop) (canonical : Document → Document) (write : value → Document) :
    Prop where
  complete : ∀ {document}, fits document → ∀ name, ∃ stored, read name document = .ok stored
  sound : ∀ name {document stored}, read name document = .ok stored →
    fits document ∧ write stored = canonical document

theorem exists_readEntries_iff {value : Type}
    {read : Label → Document → Except Malformed value} {fits : Document → Prop}
    (each : ∀ name document, (∃ stored, read name document = .ok stored) ↔ fits document)
    (entries : List (Label × Document)) :
    (∃ values, readEntries read entries = .ok values) ↔ ∀ entry ∈ entries, fits entry.2 := by
  induction entries with
  | nil => simp [readEntries]
  | cons entry entries ih =>
      obtain ⟨name, document⟩ := entry
      rw [List.forall_mem_cons, ← ih, ← each name document]
      constructor
      · rintro ⟨values, succeeds⟩
        obtain ⟨first, readFirst, succeeds⟩ := exists_of_bind_eq_ok succeeds
        obtain ⟨later, readLater, -⟩ := exists_of_bind_eq_ok succeeds
        exact ⟨⟨first, readFirst⟩, later, readLater⟩
      · rintro ⟨⟨first, readFirst⟩, later, readLater⟩
        exact ⟨(name, first) :: later, by simp [readEntries, readFirst, readLater]⟩

namespace ReadsExactly

variable {value : Type} {read : Label → Document → Except Malformed value}
  {fits : Document → Prop} {canonical : Document → Document} {write : value → Document}

theorem exists_iff (exactly : ReadsExactly read fits canonical write) (name : Label)
    (document : Document) :
    (∃ stored, read name document = .ok stored) ↔ fits document :=
  ⟨fun ⟨_, succeeds⟩ => (exactly.sound name succeeds).1, fun fits => exactly.complete fits name⟩

/-- A table is read exactly if its values are. -/
theorem table (exactly : ReadsExactly read fits canonical write) (label : String) :
    ReadsExactly (fun _ document => tableOf label read document) (FitsTable label fits)
      (canonicalTable label canonical)
      (fun stored => .record [(label, stored.toDocument write)]) where
  complete := by
    rintro document ⟨found, each⟩ name
    obtain ⟨values, succeeds⟩ := (exists_readEntries_iff exactly.exists_iff _).mpr each
    have inner := requireMap_eq_ok_iff.mpr ⟨_, rfl, found⟩
    exact ⟨Table.ofEntries values, by simp [tableOf, inner, succeeds]⟩
  sound := by
    intro name document stored succeeds
    constructor
    · obtain ⟨inner, found, succeeds⟩ := exists_of_bind_eq_ok succeeds
      obtain ⟨values, readValues, -⟩ := exists_of_bind_eq_ok succeeds
      obtain ⟨entries, rfl, isTable⟩ := requireMap_eq_ok_iff.mp found
      exact .table isTable ((exists_readEntries_iff exactly.exists_iff _).mp ⟨values, readValues⟩)
    · have each : ∀ name document stored, read name document = .ok stored →
          write stored = canonical document :=
        fun name _ _ readValue => (exactly.sound name readValue).2
      rw [Table.toDocument, map_tableOf each succeeds, canonicalTable]

/-- What is wrapped into a structure is read exactly if it is read exactly by itself. -/
theorem wrap {wrapped : Type} {wrap : value → wrapped} {writeWrapped : wrapped → Document}
    (exactly : ReadsExactly read fits canonical write)
    (same : ∀ stored, writeWrapped (wrap stored) = write stored) :
    ReadsExactly (fun name document => do return wrap (← read name document)) fits canonical
      writeWrapped where
  complete := by
    intro document accepted name
    obtain ⟨stored, succeeds⟩ := exactly.complete accepted name
    exact ⟨wrap stored, by rw [succeeds]; rfl⟩
  sound := by
    intro name document stored succeeds
    obtain ⟨inner, readInner, succeeds⟩ := exists_of_bind_eq_ok succeeds
    cases succeeds
    rw [same]
    exact exactly.sound name readInner

end ReadsExactly

/-! ## Declarations and objects -/

theorem exists_ofEntries_eq_ok {entries : List (Label × Document)}
    (each : ∀ part ∈ declarationParts, Fits part.2 (Document.valueAt part.1 entries)) :
    ∃ spec, TypeSpec.ofEntries entries = .ok spec := by
  simp only [declarationParts, List.forall_mem_cons] at each
  obtain ⟨name, isName⟩ := each.1.readsCanonically
  obtain ⟨type, readType, -⟩ := each.2.1.readsCanonically
  obtain ⟨typeParams, readTypeParams, -⟩ := each.2.2.1.readsCanonically
  refine ⟨⟨name, type, typeParams⟩, ?_⟩
  simp [TypeSpec.ofEntries, Document.requireText, isName, readType, readTypeParams]

theorem TypeSpec.canonical_of_ofEntries {entries : List (Label × Document)} {spec : TypeSpec}
    (read : TypeSpec.ofEntries entries = .ok spec) :
    (∀ part ∈ declarationParts, Fits part.2 (Document.valueAt part.1 entries)) ∧
      [("decl", spec.toDocument)] = canonicalDeclaration (.map entries) := by
  obtain ⟨name, readName, read⟩ := exists_of_bind_eq_ok read
  obtain ⟨type, readType, read⟩ := exists_of_bind_eq_ok read
  obtain ⟨typeParams, readTypeParams, read⟩ := exists_of_bind_eq_ok read
  cases read
  rw [exprAt_eq] at readType
  rw [resultsAt_eq] at readTypeParams
  obtain ⟨fitsType, writtenType⟩ := Expr.fits_and_canonical_of_ofDocument readType
  obtain ⟨fitsTypeParams, writtenTypeParams⟩ :=
    fits_and_canonical_of_resultsOfDocument readTypeParams
  constructor
  · simp only [declarationParts, List.forall_mem_cons]
    exact ⟨fits_of_requireText readName, fitsType, fitsTypeParams, by simp⟩
  · simp [TypeSpec.toDocument, canonicalDeclaration, declarationParts, canonical,
      valueAt_of_requireText readName, writtenType, writtenTypeParams]

theorem Kind.word_of_ofWord? {word : String} {kind : Kind} (known : Kind.ofWord? word = some kind) :
    kind.word = word := by
  unfold Kind.ofWord? at known
  split at known <;> cases known <;> rfl

theorem exists_kindOf_eq_ok {entries : List (Label × Document)} {word : String}
    (kinded : Document.valueAt "kind" entries = .text word)
    (known : word ∈ ["type", "func", "var", "const"]) (name : Label) :
    ∃ kind, kindOf name entries = .ok kind := by
  obtain ⟨kind, rfl⟩ := (Kind.exists_word_eq_iff word).mpr known
  exact ⟨kind, by simp [kindOf, Document.requireText, kinded]⟩

theorem valueAt_of_kindOf {name : Label} {entries : List (Label × Document)} {kind : Kind}
    (read : kindOf name entries = .ok kind) :
    Document.valueAt "kind" entries = .text kind.word := by
  obtain ⟨word, readWord, read⟩ := exists_of_bind_eq_ok read
  split at read
  · next known =>
      cases read
      rw [Kind.word_of_ofWord? known]
      exact valueAt_of_requireText readWord
  · cases read

theorem exists_declarationOf_eq_ok {entries : List (Label × Document)}
    (fits : FitsDeclaration (Document.valueAt "decl" entries)) (name : Label) :
    ∃ decl, declarationOf name entries = .ok decl := by
  unfold declarationOf
  generalize Document.valueAt "decl" entries = decl at fits ⊢
  cases fits with
  | absent => exact ⟨none, rfl⟩
  | present each =>
      obtain ⟨spec, read⟩ := exists_ofEntries_eq_ok each
      exact ⟨some spec, by simp [read, Except.map]⟩

theorem canonical_of_declarationOf {name : Label} {entries : List (Label × Document)}
    {decl : Option TypeSpec} (read : declarationOf name entries = .ok decl) (kind : Kind) :
    FitsDeclaration (Document.valueAt "decl" entries) ∧
      (Object.mk kind decl).toDocument =
        .record (("kind", .text kind.word) ::
          canonicalDeclaration (Document.valueAt "decl" entries)) := by
  unfold declarationOf at read
  generalize Document.valueAt "decl" entries = declaration at read ⊢
  split at read
  · cases read
    exact ⟨.absent, rfl⟩
  · obtain ⟨spec, readSpec, read⟩ := exists_of_bind_eq_ok read
    cases read
    obtain ⟨each, written⟩ := TypeSpec.canonical_of_ofEntries readSpec
    exact ⟨.present each, by rw [← written]; rfl⟩
  · cases read

/-- Objects are read exactly. -/
theorem Object.readsExactly :
    ReadsExactly Object.ofDocument FitsObject canonicalObject Object.toDocument where
  complete := by
    rintro document ⟨kinded, known, fitsDecl⟩ name
    obtain ⟨kind, readKind⟩ := exists_kindOf_eq_ok kinded known name
    obtain ⟨decl, readDecl⟩ := exists_declarationOf_eq_ok fitsDecl name
    exact ⟨⟨kind, decl⟩, by simp [Object.ofDocument, readKind, readDecl]⟩
  sound := by
    intro name document object read
    cases document with
    | map entries =>
        obtain ⟨kind, readKind, read⟩ := exists_of_bind_eq_ok read
        obtain ⟨decl, readDecl, read⟩ := exists_of_bind_eq_ok read
        cases read
        have kinded := valueAt_of_kindOf readKind
        obtain ⟨fitsDecl, written⟩ := canonical_of_declarationOf readDecl kind
        refine ⟨.object kinded ((Kind.exists_word_eq_iff _).mp ⟨kind, rfl⟩) fitsDecl, ?_⟩
        rw [written, canonicalObject, Document.entries, kinded]
    | _ => cases read

/-! ## Programs -/

/-- Files are read exactly. -/
theorem File.readsExactly :
    ReadsExactly (fun _ file => File.ofDocument file) FitsFile canonicalFile File.toDocument :=
  (Object.readsExactly.table "objects").wrap fun _ => rfl

/-- Packages are read exactly. -/
theorem Package.readsExactly :
    ReadsExactly (fun _ package => Package.ofDocument package) FitsPackage canonicalPackage
      Package.toDocument :=
  (File.readsExactly.table "files").wrap fun _ => rfl

/-- Programs are read exactly. -/
theorem Program.readsExactly :
    ReadsExactly (fun _ document => Program.ofDocument document) FitsProgram canonicalProgram
      Program.toDocument :=
  (Package.readsExactly.table "packages").wrap fun _ => rfl

/--
A document is read as a program if and only if it fits the grammar of programs; every other one is
refused as malformed.  The program that was read is written as the canonical form of the document.
-/
theorem Program.ofDocument_accepts_exactly (document : Document) :
    ((∃ program, Program.ofDocument document = .ok program) ↔ FitsProgram document) ∧
      ((∃ problem, Program.ofDocument document = .error problem) ↔ ¬ FitsProgram document) ∧
      ∀ program, Program.ofDocument document = .ok program →
        program.toDocument = canonicalProgram document := by
  have accepted := Program.readsExactly.exists_iff (.text "") document
  refine ⟨accepted, ?_, fun program succeeds => ?_⟩
  · rw [← accepted]
    cases Program.ofDocument document <;> simp
  · exact (Program.readsExactly.sound (.text "") succeeds).2

/-- A document with an entry that means nothing and without parameters, results or methods. -/
def untidyDocument : Document :=
  .record [("packages", .map [(.bytes [112], .record [("files", .map [(.text "p.go", .record
    [("objects", .map [
      (.text "Closer", .record [("decl", .record [("type", .record
        [("methods", .list [.record [("type", .record [("node", .text "FuncType")]),
          ("names", .list [.text "Close"])]]), ("node", .text "InterfaceType")]),
        ("name", .text "Closer"), ("line", .integer 3)]), ("kind", .text "type")]),
      (.text "Limit", .record [("kind", .text "const"), ("decl", .null)])])])])])])]

/-- The document that is written in its place. -/
def tidyDocument : Document :=
  .record [("packages", .map [(.bytes [112], .record [("files", .map [(.text "p.go", .record
    [("objects", .map [
      (.text "Closer", .record [("kind", .text "type"), ("decl", .record
        [("name", .text "Closer"), ("type", .record [("node", .text "InterfaceType"),
          ("methods", .list [.record [("names", .list [.text "Close"]),
            ("type", .record [("node", .text "FuncType"), ("params", .list []),
              ("results", .null)])]])]),
        ("type_params", .null)])]),
      (.text "Limit", .record [("kind", .text "const")])])])])])])]

theorem Program.ofDocument_accepts_exactly_untidy :
    FitsProgram untidyDocument ∧
      ∃ program, Program.ofDocument untidyDocument = .ok program ∧
        program.toDocument = tidyDocument := by
  obtain ⟨program, succeeds⟩ : ∃ program, Program.ofDocument untidyDocument = .ok program :=
    ⟨_, rfl⟩
  obtain ⟨accepted, -, written⟩ := Program.ofDocument_accepts_exactly untidyDocument
  refine ⟨accepted.mp ⟨program, succeeds⟩, program, succeeds, ?_⟩
  rw [written program succeeds]
  simp [untidyDocument, tidyDocument, canonicalProgram, canonicalPackage, canonicalFile,
    canonicalTable, canonicalObject, canonicalDeclaration, canonical, Document.table,
    Document.entries, Document.record, Entries.collect, Entries.store, announcedParts,
    expressionParts?, declarationParts, fieldParts]

end FuncAdapter
