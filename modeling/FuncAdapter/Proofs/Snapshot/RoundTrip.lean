import FuncAdapter.Proofs.MessagePack.RoundTrip
import FuncAdapter.Proofs.Program.RoundTrip
import FuncAdapter.Snapshot

/-!
# Reading programs back from snapshots

A program that was read from a document is read back from its snapshot, as long as the format can
hold the lengths and the reader allows the nesting.  The labels of all records and tables differ, so
that the document of a snapshot is always one that the format can hold.
-/

namespace FuncAdapter

open MessagePack (Regular)

/-! ## Documents of programs -/

theorem regular_record {entries : List (String × Document)}
    (distinct : (entries.map Prod.fst).Nodup) (each : ∀ entry ∈ entries, Regular entry.2) :
    Regular (.record entries) := by
  refine .map ?_ fun entry member => ?_
  · have labels :
        Entries.labels (entries.map fun entry => (Label.text entry.1, entry.2)) =
          (entries.map Prod.fst).map Label.text := by
      simp [Entries.labels]
    rw [labels]
    exact List.Pairwise.map Label.text
      (fun first second different same => different (Label.text.inj same)) distinct
  · obtain ⟨original, inEntries, rfl⟩ := List.mem_map.mp member
    exact each original inEntries

theorem regular_textsDocument (texts : List String) : Regular (textsDocument texts) := by
  refine .list fun item member => ?_
  obtain ⟨text, -, rfl⟩ := List.mem_map.mp member
  exact .text

theorem regular_optionalTextDocument (text : Option String) :
    Regular (optionalTextDocument text) := by
  cases text with
  | none => exact .null
  | some text => exact .text

mutual

theorem Expr.regular_toDocument : (expr : Expr) → Regular expr.toDocument
  | .ident name => regular_record (by simp) (by simp [Regular.text])
  | .array element length =>
      regular_record (by simp)
        (by simp [Regular.text, element.regular_toDocument, regular_optionalTextDocument])
  | .map key value =>
      regular_record (by simp)
        (by simp [Regular.text, key.regular_toDocument, value.regular_toDocument])
  | .pointer target =>
      regular_record (by simp) (by simp [Regular.text, target.regular_toDocument])
  | .selector qualifier name =>
      regular_record (by simp) (by simp [Regular.text, qualifier.regular_toDocument])
  | .variadic element =>
      regular_record (by simp) (by simp [Regular.text, element.regular_toDocument])
  | .func params results =>
      have fields : Regular (.list (fieldDocuments params)) :=
        .list (regular_of_mem_fieldDocuments params)
      regular_record (by simp)
        (by simp [Regular.text, fields, regular_resultsDocument results])
  | .interface methods =>
      have fields : Regular (.list (fieldDocuments methods)) :=
        .list (regular_of_mem_fieldDocuments methods)
      regular_record (by simp) (by simp [Regular.text, fields])
  | .raw text => regular_record (by simp) (by simp [Regular.text])
  | .call _ _ _ => .null
  | .missing => .null

theorem regular_of_mem_fieldDocuments :
    (fields : List Field) → ∀ item ∈ fieldDocuments fields, Regular item
  | [], _, member => nomatch member
  | .mk names type :: fields, item, member => by
      rw [fieldDocuments] at member
      rcases List.mem_cons.mp member with rfl | later
      · exact regular_record (by simp)
          (by simp [regular_textsDocument, type.regular_toDocument])
      · exact regular_of_mem_fieldDocuments fields item later

theorem regular_resultsDocument :
    (results : Option (List Field)) → Regular (resultsDocument results)
  | none => .null
  | some fields => .list (regular_of_mem_fieldDocuments fields)

end

theorem TypeSpec.regular_toDocument (spec : TypeSpec) : Regular spec.toDocument :=
  regular_record (by simp)
    (by simp [Regular.text, spec.type.regular_toDocument, regular_resultsDocument])

theorem Object.regular_toDocument (object : Object) : Regular object.toDocument := by
  rw [Object.toDocument]
  split
  · exact regular_record (by simp) (by simp [Regular.text])
  · next spec _ =>
      exact regular_record (by simp) (by simp [Regular.text, spec.regular_toDocument])

/-- A record with one table is regular if the values of the table are. -/
theorem Table.regular_toDocument {value : Type} {write : value → Document} (label : String)
    (table : Table Label value) (each : ∀ stored, Regular (write stored)) :
    Regular (.record [(label, table.toDocument write)]) := by
  refine regular_record (by simp) fun entry member => ?_
  cases List.mem_singleton.mp member
  refine .map ?_ fun entry member => ?_
  · simpa [Entries.labels, Function.comp_def] using table.distinct
  · obtain ⟨original, -, rfl⟩ := List.mem_map.mp member
    exact each original.2

theorem File.regular_toDocument (file : File) : Regular file.toDocument :=
  file.objects.regular_toDocument "objects" Object.regular_toDocument

theorem Package.regular_toDocument (package : Package) : Regular package.toDocument :=
  package.files.regular_toDocument "files" File.regular_toDocument

theorem Program.regular_toDocument (program : Program) : Regular program.toDocument :=
  program.packages.regular_toDocument "packages" Package.regular_toDocument

namespace Snapshot

theorem regular_envelope (program : Program) : Regular (envelope program) := by
  refine regular_record (by simp) ?_
  have format : Regular (.integer formatNumber) := .integer (by decide) (by decide)
  simp [format, program.regular_toDocument]

/-- The document of a snapshot is read as what the document of its program stands for. -/
theorem ofEnvelope_envelope (program : Program) :
    ofEnvelope (envelope program) =
      (Program.ofDocument program.toDocument).mapError ReadError.program := rfl

/-- A type with nested function types, with no results in one and an empty list in the other. -/
def recorderSpec : TypeSpec :=
  ⟨"Recorder",
    .interface
      [.mk ["Record"]
        (.func
          [.mk ["at", "until"] (.selector (.ident "time") "Time"),
            .mk [] (.array (.map (.ident "string") (.pointer (.ident "byte"))) (some "4")),
            .mk ["done"] (.func [] (some []))]
          none)],
    some []⟩

/-- A program with a package and an object whose names are bytes. -/
def recorderProgram : Program :=
  ⟨.ofEntries
    [(.bytes [0xff, 0x00], ⟨.ofEntries
      [(.text "z.go", ⟨.ofEntries
        [(.text "größe", ⟨.const, none⟩), (.text "Recorder", ⟨.type, some recorderSpec⟩)]⟩),
        (.text "a.go", ⟨.ofEntries [(.bytes [], ⟨.func, none⟩)]⟩)]⟩),
      (.text "empty", ⟨.empty⟩)]⟩

end Snapshot

end FuncAdapter
