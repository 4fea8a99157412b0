import FuncAdapter.Proofs.Program.Grammar
import FuncAdapter.Snapshot

/-!
# Names in snapshots

The names of packages, files and objects in a program that was read from a snapshot are the labels
of three levels of maps in the snapshot.  A label may be text or bytes, and no level asks which: a
snapshot stays readable when its names are replaced, also by names that are not text.
-/

namespace FuncAdapter

/-! ## Names of programs and of documents -/

/-- The labels of a table, each followed by the names inside its value. -/
def Table.names {value : Type} (inside : value → List Label) (table : Table Label value) :
    List Label :=
  table.entries.flatMap fun entry => entry.1 :: inside entry.2

/-- The names of the objects in a file. -/
def File.names (file : File) : List Label := file.objects.names fun _ => []

/-- The names of the files in a package and of their objects. -/
def Package.names (package : Package) : List Label := package.files.names File.names

/-- The names of the packages in a program, of their files and of the objects. -/
def Program.names (program : Program) : List Label := program.packages.names Package.names

namespace Document

/-- The labels of the table that a document holds, each followed by the names inside its value. -/
def namesAt (label : String) (inside : Document → List Label) (document : Document) :
    List Label :=
  (document.table label).flatMap fun entry => entry.1 :: inside entry.2

/-- The names in the document of a file. -/
def fileNames : Document → List Label := namesAt "objects" fun _ => []

/-- The names in the document of a package. -/
def packageNames : Document → List Label := namesAt "files" fileNames

/-- The names in the document of a program. -/
def programNames : Document → List Label := namesAt "packages" packageNames

end Document

/-- A table is read with the names that its document holds. -/
theorem names_of_tableOf {value : Type} {label : String}
    {read : Label → Document → Except Malformed value} {inside : value → List Label}
    {insideDocument : Document → List Label}
    (each : ∀ name document stored, read name document = .ok stored →
      inside stored = insideDocument document)
    {document : Document} {table : Table Label value}
    (succeeds : tableOf label read document = .ok table) :
    table.names inside = document.namesAt label insideDocument := by
  have sameEntries := map_tableOf each succeeds
  calc table.names inside
      = (table.entries.map fun entry => (entry.1, inside entry.2)).flatMap
          fun entry => entry.1 :: entry.2 := by rw [List.flatMap_map]; rfl
    _ = ((document.table label).map fun entry => (entry.1, insideDocument entry.2)).flatMap
          fun entry => entry.1 :: entry.2 := by rw [sameEntries]
    _ = document.namesAt label insideDocument := by rw [List.flatMap_map]; rfl

theorem File.names_of_ofDocument {document : Document} {file : File}
    (read : File.ofDocument document = .ok file) : file.names = document.fileNames := by
  obtain ⟨objects, readObjects, read⟩ := exists_of_bind_eq_ok read
  cases read
  exact names_of_tableOf (fun _ _ _ _ => rfl) readObjects

theorem Package.names_of_ofDocument {document : Document} {package : Package}
    (read : Package.ofDocument document = .ok package) :
    package.names = document.packageNames := by
  obtain ⟨files, readFiles, read⟩ := exists_of_bind_eq_ok read
  cases read
  exact names_of_tableOf (fun _ _ _ readFile => File.names_of_ofDocument readFile) readFiles

theorem Program.names_of_ofDocument {document : Document} {program : Program}
    (read : Program.ofDocument document = .ok program) :
    program.names = document.programNames := by
  obtain ⟨packages, readPackages, read⟩ := exists_of_bind_eq_ok read
  cases read
  exact names_of_tableOf (fun _ _ _ readPackage => Package.names_of_ofDocument readPackage)
    readPackages

/-! ## Other names in the same document -/

namespace Document

/-- Replace the labels of the table that a document holds, and change its values. -/
def relabelAt (label : String) (rename : Label → Label) (change : Document → Document) :
    Document → Document
  | .map entries =>
      .map (Entries.store (.text label)
        (.map ((valueAt label entries).entries.map fun entry => (rename entry.1, change entry.2)))
        entries)
  | other => other

/-- Replace the names in the document of a file. -/
def relabelFile (rename : Label → Label) : Document → Document :=
  relabelAt "objects" rename id

/-- Replace the names in the document of a package. -/
def relabelPackage (rename : Label → Label) : Document → Document :=
  relabelAt "files" rename (relabelFile rename)

/-- Replace the names in the document of a program. -/
def relabelProgram (rename : Label → Label) : Document → Document :=
  relabelAt "packages" rename (relabelPackage rename)

theorem valueAt_store (label other : String) (new : Document)
    (entries : List (Label × Document)) :
    valueAt label (Entries.store (.text other) new entries) =
      if other = label then new else valueAt label entries := by
  rw [valueAt, Entries.find?_store]
  by_cases same : other = label
  · simp [same]
  · simp [same, valueAt]

end Document

/-- A document stays one of a table if its labels are replaced. -/
theorem FitsTable.relabelAt {label : String} {fits : Document → Prop}
    {change : Document → Document} (kept : ∀ {document}, fits document → fits (change document))
    (rename : Label → Label) {document : Document} (accepted : FitsTable label fits document) :
    FitsTable label fits (document.relabelAt label rename change) := by
  obtain ⟨found, each⟩ := accepted
  refine .table (by rw [Document.valueAt_store, if_pos rfl]) fun entry member => ?_
  obtain ⟨original, inTable, rfl⟩ := List.mem_map.mp member
  rw [found] at inTable
  exact kept (each original inTable)

theorem FitsProgram.relabel (rename : Label → Label) {document : Document}
    (accepted : FitsProgram document) : FitsProgram (document.relabelProgram rename) :=
  FitsTable.relabelAt (FitsTable.relabelAt (FitsTable.relabelAt id rename) rename) rename accepted

/-- After a change to a document, all names in it are new names. -/
def Renames (rename : Label → Label) (names : Document → List Label)
    (change : Document → Document) : Prop :=
  ∀ document, ∀ name ∈ names (change document), ∃ old, rename old = name

theorem Renames.relabelAt {rename : Label → Label} {inside : Document → List Label}
    {change : Document → Document} (each : Renames rename inside change) (label : String) :
    Renames rename (Document.namesAt label inside) (Document.relabelAt label rename change) := by
  intro document name member
  obtain ⟨entry, inTable, isName⟩ := List.mem_flatMap.mp member
  have inDocument := Entries.mem_of_mem_collect inTable
  cases document with
  | map entries =>
      rw [Document.relabelAt, Document.entries, Document.valueAt_store, if_pos rfl] at inDocument
      obtain ⟨original, -, rfl⟩ := List.mem_map.mp inDocument
      rcases List.mem_cons.mp isName with rfl | inner
      · exact ⟨original.1, rfl⟩
      · exact each original.2 name inner
  | _ => cases inDocument

theorem renames_relabelProgram (rename : Label → Label) :
    Renames rename Document.programNames (Document.relabelProgram rename) := by
  have inside : Renames rename (fun _ => []) id := fun _ _ member => nomatch member
  exact ((inside.relabelAt "objects").relabelAt "files").relabelAt "packages"

/-! ## Snapshots -/

namespace Snapshot

/-- The entries of a snapshot with the names of its program replaced. -/
def relabelEntries (rename : Label → Label) (entries : List (Label × Document)) :
    List (Label × Document) :=
  Entries.store (.text "program")
    ((Document.valueAt "program" entries).relabelProgram rename) entries

theorem ofEnvelope_map_eq_ok_iff {entries : List (Label × Document)} {program : Program} :
    ofEnvelope (.map entries) = .ok program ↔
      ∃ document, Entries.find? (Label.text "program") entries = some document ∧
        isFormatNumber (Document.valueAt "format" entries) = true ∧
        Program.ofDocument document = .ok program := by
  rw [ofEnvelope]
  cases Entries.find? (Label.text "program") entries with
  | none => simp
  | some document =>
      by_cases supported : isFormatNumber (Document.valueAt "format" entries) = true
      · simp [supported, mapError_eq_ok_iff]
      · simp [supported]

/-- A snapshot stays readable when the names in it are replaced. -/
theorem exists_ofEnvelope_relabelEntries {entries : List (Label × Document)} {program : Program}
    (opens : ofEnvelope (.map entries) = .ok program) (rename : Label → Label) :
    ∃ renamed, ofEnvelope (.map (relabelEntries rename entries)) = .ok renamed ∧
      ∀ name ∈ renamed.names, ∃ old, rename old = name := by
  obtain ⟨document, found, supported, read⟩ := ofEnvelope_map_eq_ok_iff.mp opens
  have accepted : FitsProgram document := (Program.readsExactly.sound (.text "") read).1
  obtain ⟨renamed, readRenamed⟩ :=
    Program.readsExactly.complete (accepted.relabel rename) (.text "")
  refine ⟨renamed, ofEnvelope_map_eq_ok_iff.mpr ⟨_, ?_, ?_, readRenamed⟩, fun name member => ?_⟩
  · rw [relabelEntries, Entries.find?_store, if_pos rfl, Document.valueAt, found,
      Option.getD_some]
  · rw [relabelEntries, Document.valueAt_store, if_neg (by decide)]
    exact supported
  · rw [Program.names_of_ofDocument readRenamed] at member
    exact renames_relabelProgram rename _ name member

/--
The names in a program that was read from a snapshot are the labels in the snapshot, in order, and
they are text only if the labels are.  No names make a snapshot unreadable: with any others in their
place it is read as well.
-/
theorem names_of_load {bytes : List UInt8} {program : Program}
    (loads : load bytes = .ok program) :
    ∃ entries, MessagePack.decode bytes = .ok (.map entries) ∧
      program.names = (Document.valueAt "program" entries).programNames ∧
      ∀ rename : Label → Label,
        ∃ renamed, ofEnvelope (.map (relabelEntries rename entries)) = .ok renamed ∧
          ∀ name ∈ renamed.names, ∃ old, rename old = name := by
  obtain ⟨document, decoded, opens⟩ := exists_of_bind_eq_ok loads
  rw [mapError_eq_ok_iff] at decoded
  cases document with
  | map entries =>
      obtain ⟨document, found, -, read⟩ := ofEnvelope_map_eq_ok_iff.mp opens
      refine ⟨entries, decoded, ?_, exists_ofEnvelope_relabelEntries opens⟩
      rw [Program.names_of_ofDocument read, Document.valueAt, found, Option.getD_some]
  | _ => cases opens

/-- A snapshot with one package, one file and one variable, all named by bytes. -/
def byteNamed : List UInt8 :=
  MessagePack.write (.record [("format", .integer formatNumber), ("program",
    .record [("packages", .map [(.bytes [112], .record [("files", .map [(.bytes [102],
      .record [("objects", .map [(.bytes [84], .record [("kind", .text "var")])])])])])])])])

theorem names_of_load_byteNamed :
    ∃ program entries renamed, load byteNamed = .ok program ∧
      MessagePack.decode byteNamed = .ok (.map entries) ∧
      program.names = (Document.valueAt "program" entries).programNames ∧
      ofEnvelope (.map (relabelEntries (fun _ => .text "p") entries)) = .ok renamed ∧
      ∀ name ∈ renamed.names, name = .text "p" := by
  obtain ⟨program, loads⟩ : ∃ program, load byteNamed = .ok program := ⟨_, rfl⟩
  obtain ⟨entries, decoded, same, relabelled⟩ := names_of_load loads
  obtain ⟨renamed, opens, named⟩ := relabelled fun _ => .text "p"
  refine ⟨program, entries, renamed, loads, decoded, same, opens, fun name member => ?_⟩
  obtain ⟨-, same⟩ := named name member
  exact same.symm

/-- Names that are not text are read at all three levels. -/
theorem load_accepts_byte_names :
    ∃ program, load byteNamed = .ok program ∧
      program.names = [.bytes [112], .bytes [102], .bytes [84]] :=
  ⟨_, rfl, by decide⟩

end Snapshot

end FuncAdapter
