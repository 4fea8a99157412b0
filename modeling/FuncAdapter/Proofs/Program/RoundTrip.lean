import FuncAdapter.Program.Encoding
import FuncAdapter.Proofs.Syntax.RoundTrip

/-!
# Reading programs back from documents

A program is well formed if its declarations hold no calls and no missing nodes.  The programs that
can be read from documents are well formed, and every well-formed program is read back from its own
document with the same tables in the same order.
-/

namespace FuncAdapter

/-- A declared type without calls and missing nodes. -/
def TypeSpec.WellFormed (spec : TypeSpec) : Prop :=
  spec.type.foreign? = none ∧ resultsForeign? spec.typeParams = none

/-- An object whose declaration, if there is one, is well formed. -/
def Object.WellFormed (object : Object) : Prop :=
  ∀ spec ∈ object.decl, spec.WellFormed

/-- A file of well-formed objects. -/
def File.WellFormed (file : File) : Prop :=
  ∀ object ∈ file.objects.values, object.WellFormed

/-- A package of well-formed files. -/
def Package.WellFormed (package : Package) : Prop :=
  ∀ file ∈ package.files.values, file.WellFormed

/-- A program of well-formed packages. -/
def Program.WellFormed (program : Program) : Prop :=
  ∀ package ∈ program.packages.values, package.WellFormed

/-! ## Tables -/

section Tables

variable {value : Type} {label : String} {read : Label → Document → Except Malformed value}

theorem readEntries_map {write : value → Document} {entries : List (Label × value)}
    (each : ∀ entry ∈ entries, read entry.1 (write entry.2) = .ok entry.2) :
    readEntries read (entries.map fun entry => (entry.1, write entry.2)) = .ok entries := by
  induction entries with
  | nil => rfl
  | cons entry entries ih =>
      have first := each entry List.mem_cons_self
      have later := ih fun entry member => each entry (List.mem_cons_of_mem _ member)
      rw [List.map_cons, readEntries, first, later]
      rfl

/-- A table is read back from its document if every value is. -/
theorem tableOf_record {write : value → Document} {table : Table Label value}
    (each : ∀ entry ∈ table.entries, read entry.1 (write entry.2) = .ok entry.2) :
    tableOf label read (.record [(label, table.toDocument write)]) = .ok table := by
  have found :
      Document.requireMap label (.record [(label, table.toDocument write)]) =
        .ok (table.entries.map fun entry => (entry.1, write entry.2)) := by
    simp [Document.record, Document.requireMap, Table.toDocument]
  rw [tableOf, found]
  simp [readEntries_map each]

theorem exists_read_of_mem_readEntries {entries : List (Label × Document)}
    {values : List (Label × value)} (succeeds : readEntries read entries = .ok values)
    {entry : Label × value} (member : entry ∈ values) :
    ∃ document, read entry.1 document = .ok entry.2 := by
  induction entries generalizing values with
  | nil =>
      cases succeeds
      exact nomatch member
  | cons first entries ih =>
      rw [readEntries] at succeeds
      obtain ⟨head, readHead, succeeds⟩ := exists_of_bind_eq_ok succeeds
      obtain ⟨later, readLater, succeeds⟩ := exists_of_bind_eq_ok succeeds
      cases succeeds
      rcases List.mem_cons.mp member with rfl | inLater
      · exact ⟨first.2, readHead⟩
      · exact ih readLater inLater

/-- Every value of a table that was read has itself been read. -/
theorem exists_read_of_tableOf {document : Document} {table : Table Label value}
    (succeeds : tableOf label read document = .ok table)
    {stored : value} (member : stored ∈ table.values) :
    ∃ name document, read name document = .ok stored := by
  obtain ⟨entries, -, succeeds⟩ := exists_of_bind_eq_ok succeeds
  obtain ⟨values, readValues, succeeds⟩ := exists_of_bind_eq_ok succeeds
  cases succeeds
  obtain ⟨entry, inTable, rfl⟩ := List.mem_map.mp member
  obtain ⟨document, isRead⟩ :=
    exists_read_of_mem_readEntries readValues (Entries.mem_of_mem_collect inTable)
  exact ⟨entry.1, document, isRead⟩

end Tables

/-! ## Reading what was written -/

theorem TypeSpec.ofEntries_toDocument {spec : TypeSpec} (wellFormed : spec.WellFormed) :
    ∃ entries, spec.toDocument = .map entries ∧ TypeSpec.ofEntries entries = .ok spec := by
  have type := Expr.ofDocument_toDocument spec.type wellFormed.1
  have typeParams := resultsOfDocument_resultsDocument spec.typeParams wellFormed.2
  refine ⟨_, rfl, ?_⟩
  simp [TypeSpec.ofEntries, Document.requireText, type, typeParams]

theorem Object.ofDocument_toDocument {object : Object} (wellFormed : object.WellFormed)
    (name : Label) :
    Object.ofDocument name object.toDocument = .ok object := by
  obtain ⟨kind, decl⟩ := object
  cases decl with
  | none =>
      simp [Object.toDocument, Document.record, Object.ofDocument, kindOf, declarationOf,
        Document.requireText]
  | some spec =>
      obtain ⟨entries, isMap, reads⟩ := TypeSpec.ofEntries_toDocument (wellFormed spec rfl)
      simp [Object.toDocument, Document.record, Object.ofDocument, kindOf, declarationOf,
        Document.requireText, isMap, reads, Except.map]

theorem File.ofDocument_toDocument {file : File} (wellFormed : file.WellFormed) :
    File.ofDocument file.toDocument = .ok file := by
  have objects : tableOf "objects" Object.ofDocument file.toDocument = .ok file.objects :=
    tableOf_record fun entry member =>
      Object.ofDocument_toDocument (wellFormed entry.2 (List.mem_map_of_mem member)) entry.1
  rw [File.ofDocument, objects]
  rfl

theorem Package.ofDocument_toDocument {package : Package} (wellFormed : package.WellFormed) :
    Package.ofDocument package.toDocument = .ok package := by
  have files :
      tableOf "files" (fun _ file => File.ofDocument file) package.toDocument =
        .ok package.files :=
    tableOf_record fun entry member =>
      File.ofDocument_toDocument (wellFormed entry.2 (List.mem_map_of_mem member))
  rw [Package.ofDocument, files]
  rfl

/-- A well-formed program is read back from its document. -/
theorem Program.ofDocument_toDocument {program : Program} (wellFormed : program.WellFormed) :
    Program.ofDocument program.toDocument = .ok program := by
  have packages :
      tableOf "packages" (fun _ package => Package.ofDocument package) program.toDocument =
        .ok program.packages :=
    tableOf_record fun entry member =>
      Package.ofDocument_toDocument (wellFormed entry.2 (List.mem_map_of_mem member))
  rw [Program.ofDocument, packages]
  rfl

/-! ## What can be read -/

theorem TypeSpec.wellFormed_of_ofEntries {entries : List (Label × Document)} {spec : TypeSpec}
    (read : TypeSpec.ofEntries entries = .ok spec) :
    spec.WellFormed := by
  obtain ⟨name, -, read⟩ := exists_of_bind_eq_ok read
  obtain ⟨type, readType, read⟩ := exists_of_bind_eq_ok read
  obtain ⟨typeParams, readTypeParams, read⟩ := exists_of_bind_eq_ok read
  cases read
  exact ⟨foreign?_of_exprAt entries readType, resultsForeign?_of_resultsAt entries readTypeParams⟩

theorem Object.wellFormed_of_ofDocument {name : Label} {document : Document} {object : Object}
    (read : Object.ofDocument name document = .ok object) :
    object.WellFormed := by
  cases document with
  | map entries =>
      obtain ⟨kind, -, read⟩ := exists_of_bind_eq_ok read
      obtain ⟨decl, readDecl, read⟩ := exists_of_bind_eq_ok read
      cases read
      rw [declarationOf] at readDecl
      split at readDecl
      · cases readDecl
        exact fun spec isDecl => nomatch isDecl
      · obtain ⟨found, readFound, readDecl⟩ := exists_of_bind_eq_ok readDecl
        cases readDecl
        intro spec isDecl
        cases isDecl
        exact TypeSpec.wellFormed_of_ofEntries readFound
      · exact nomatch readDecl
  | _ => exact nomatch read

theorem File.wellFormed_of_ofDocument {document : Document} {file : File}
    (read : File.ofDocument document = .ok file) :
    file.WellFormed := by
  obtain ⟨objects, readObjects, read⟩ := exists_of_bind_eq_ok read
  cases read
  intro object member
  obtain ⟨name, document, readObject⟩ := exists_read_of_tableOf readObjects member
  exact Object.wellFormed_of_ofDocument readObject

theorem Package.wellFormed_of_ofDocument {document : Document} {package : Package}
    (read : Package.ofDocument document = .ok package) :
    package.WellFormed := by
  obtain ⟨files, readFiles, read⟩ := exists_of_bind_eq_ok read
  cases read
  intro file member
  obtain ⟨-, document, readFile⟩ := exists_read_of_tableOf readFiles member
  exact File.wellFormed_of_ofDocument readFile

/-- A program that was read is well formed. -/
theorem Program.wellFormed_of_ofDocument {document : Document} {program : Program}
    (read : Program.ofDocument document = .ok program) :
    program.WellFormed := by
  obtain ⟨packages, readPackages, read⟩ := exists_of_bind_eq_ok read
  cases read
  intro package member
  obtain ⟨-, document, readPackage⟩ := exists_read_of_tableOf readPackages member
  exact Package.wellFormed_of_ofDocument readPackage

end FuncAdapter
