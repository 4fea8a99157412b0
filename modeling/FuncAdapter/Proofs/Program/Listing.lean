import FuncAdapter.Proofs.Program.RoundTrip

/-!
# Programs written out in full

A program keeps no name twice: a package, file or object is known by the label it is stored under,
labels are distinct because tables have distinct labels, and the kinds are a type of their own.  A
listing is the same data without these guarantees.  Every part repeats its own name, labels are as
they come, and a kind is any word.

A listing is well formed if it happens to keep the guarantees and its declarations are built from
the shapes that documents can hold.  The main statement says that the well-formed listings are those
of the programs that can be read, and that each such program is read back from its own document.
-/

namespace FuncAdapter

/-- An object with its own name and any word as its kind. -/
structure ListedObject where
  name : Label
  kind : String
  decl : Option TypeSpec

/-- A file with its own name, and its objects under labels. -/
structure ListedFile where
  name : Label
  objects : List (Label × ListedObject)

/-- A package with its own name, and its files under labels. -/
structure ListedPackage where
  name : Label
  files : List (Label × ListedFile)

/-- A program with its packages under labels. -/
structure Listing where
  packages : List (Label × ListedPackage)

/-! ## Listings of programs -/

/-- The entries of a table, with every value listed under its label. -/
def Table.listed {value listing : Type} (list : Label → value → listing)
    (table : Table Label value) :
    List (Label × listing) :=
  table.entries.map fun entry => (entry.1, list entry.1 entry.2)

def Object.listed (label : Label) (object : Object) : ListedObject :=
  ⟨label, object.kind.word, object.decl⟩

def File.listed (label : Label) (file : File) : ListedFile :=
  ⟨label, file.objects.listed Object.listed⟩

def Package.listed (label : Label) (package : Package) : ListedPackage :=
  ⟨label, package.files.listed File.listed⟩

/-- The program written out in full. -/
def Program.listed (program : Program) : Listing :=
  ⟨program.packages.listed Package.listed⟩

/-! ## Well-formed listings -/

/-- The labels are distinct, and every value is well formed under its label. -/
def WellLabelled {listing : Type} (each : Label → listing → Prop)
    (entries : List (Label × listing)) : Prop :=
  (Entries.labels entries).Nodup ∧ ∀ entry ∈ entries, each entry.1 entry.2

/--
An object under its own name, of one of the four kinds, whose declaration holds no calls and no
missing nodes.
-/
def ListedObject.WellFormed (label : Label) (object : ListedObject) : Prop :=
  object.name = label ∧ object.kind ∈ ["type", "func", "var", "const"] ∧
    ∀ spec ∈ object.decl, spec.WellFormed

/-- A file under its own name with well-formed objects. -/
def ListedFile.WellFormed (label : Label) (file : ListedFile) : Prop :=
  file.name = label ∧ WellLabelled ListedObject.WellFormed file.objects

/-- A package under its own name with well-formed files. -/
def ListedPackage.WellFormed (label : Label) (package : ListedPackage) : Prop :=
  package.name = label ∧ WellLabelled ListedFile.WellFormed package.files

/-- A listing of well-formed packages. -/
def Listing.WellFormed (listing : Listing) : Prop :=
  WellLabelled ListedPackage.WellFormed listing.packages

section Decidable

instance (spec : TypeSpec) : Decidable spec.WellFormed :=
  inferInstanceAs (Decidable (_ ∧ _))

instance {listing : Type} {each : Label → listing → Prop}
    [∀ label stored, Decidable (each label stored)] (entries : List (Label × listing)) :
    Decidable (WellLabelled each entries) :=
  inferInstanceAs (Decidable (_ ∧ _))

instance (label : Label) (object : ListedObject) : Decidable (object.WellFormed label) :=
  inferInstanceAs (Decidable (_ ∧ _ ∧ _))

instance (label : Label) (file : ListedFile) : Decidable (file.WellFormed label) :=
  inferInstanceAs (Decidable (_ ∧ _))

instance (label : Label) (package : ListedPackage) : Decidable (package.WellFormed label) :=
  inferInstanceAs (Decidable (_ ∧ _))

instance (listing : Listing) : Decidable listing.WellFormed :=
  inferInstanceAs (Decidable (WellLabelled _ _))

end Decidable

/-! ## Tables and their listings -/

section Tables

variable {value listing : Type} {list : Label → value → listing}
  {each : Label → listing → Prop}

/-- A table has distinct labels, so only its values decide whether its listing is well formed. -/
theorem Table.wellLabelled_listed_iff {good : value → Prop}
    (values : ∀ label stored, each label (list label stored) ↔ good stored)
    (table : Table Label value) :
    WellLabelled each (table.listed list) ↔ ∀ stored ∈ table.values, good stored := by
  have labels : Entries.labels (table.listed list) = Entries.labels table.entries := by
    simp [Entries.labels, Table.listed]
  rw [WellLabelled, labels, Table.listed, List.forall_mem_map, Table.values, List.forall_mem_map]
  simp only [values]
  exact and_iff_right table.distinct

theorem exists_map_eq_of_forall_mem {entries : List (Label × listing)}
    (values : ∀ entry ∈ entries, ∃ stored, list entry.1 stored = entry.2) :
    ∃ originals : List (Label × value),
      (originals.map fun entry => (entry.1, list entry.1 entry.2)) = entries := by
  induction entries with
  | nil => exact ⟨[], rfl⟩
  | cons entry entries ih =>
      obtain ⟨stored, same⟩ := values entry List.mem_cons_self
      obtain ⟨originals, later⟩ :=
        ih fun entry member => values entry (List.mem_cons_of_mem _ member)
      exact ⟨(entry.1, stored) :: originals, by rw [List.map_cons, same, later]⟩

/-- Entries that are well formed are those of a table if the values are listings of values. -/
theorem WellLabelled.exists_table {entries : List (Label × listing)}
    (wellLabelled : WellLabelled each entries)
    (values : ∀ label stored, each label stored → ∃ original, list label original = stored) :
    ∃ table : Table Label value, table.listed list = entries := by
  obtain ⟨originals, same⟩ :=
    exists_map_eq_of_forall_mem fun entry member =>
      values entry.1 entry.2 (wellLabelled.2 entry member)
  have distinct : (Entries.labels originals).Nodup := by
    have labels : Entries.labels originals = Entries.labels entries := by
      simp [Entries.labels, ← same]
    rw [labels]
    exact wellLabelled.1
  exact ⟨⟨originals, distinct⟩, same⟩

end Tables

/-! ## Which listings are listings of programs -/

theorem Kind.exists_word_eq_iff (word : String) :
    (∃ kind : Kind, kind.word = word) ↔ word ∈ ["type", "func", "var", "const"] := by
  constructor
  · rintro ⟨kind, rfl⟩
    cases kind <;> decide
  · intro member
    simp only [List.mem_cons, List.not_mem_nil, or_false] at member
    rcases member with rfl | rfl | rfl | rfl
    · exact ⟨.type, rfl⟩
    · exact ⟨.func, rfl⟩
    · exact ⟨.var, rfl⟩
    · exact ⟨.const, rfl⟩

theorem Object.wellFormed_listed_iff (label : Label) (object : Object) :
    (object.listed label).WellFormed label ↔ object.WellFormed := by
  constructor
  · rintro ⟨-, -, decl⟩
    exact decl
  · intro decl
    exact ⟨rfl, (Kind.exists_word_eq_iff _).mp ⟨object.kind, rfl⟩, decl⟩

theorem File.wellFormed_listed_iff (label : Label) (file : File) :
    (file.listed label).WellFormed label ↔ file.WellFormed := by
  rw [File.WellFormed, ← Table.wellLabelled_listed_iff Object.wellFormed_listed_iff]
  exact and_iff_right rfl

theorem Package.wellFormed_listed_iff (label : Label) (package : Package) :
    (package.listed label).WellFormed label ↔ package.WellFormed := by
  rw [Package.WellFormed, ← Table.wellLabelled_listed_iff File.wellFormed_listed_iff]
  exact and_iff_right rfl

/-- Only the declarations of a program decide whether its listing is well formed. -/
theorem Program.wellFormed_listed_iff (program : Program) :
    program.listed.WellFormed ↔ program.WellFormed := by
  rw [Program.WellFormed, ← Table.wellLabelled_listed_iff Package.wellFormed_listed_iff]
  rfl

theorem ListedObject.WellFormed.exists_listed {label : Label} {object : ListedObject}
    (wellFormed : object.WellFormed label) :
    ∃ original : Object, original.listed label = object := by
  obtain ⟨name, kind, decl⟩ := object
  obtain ⟨named, isKind, -⟩ := wellFormed
  obtain ⟨original, rfl⟩ := (Kind.exists_word_eq_iff kind).mpr isKind
  cases named
  exact ⟨⟨original, decl⟩, rfl⟩

theorem ListedFile.WellFormed.exists_listed {label : Label} {file : ListedFile}
    (wellFormed : file.WellFormed label) :
    ∃ original : File, original.listed label = file := by
  obtain ⟨name, objects⟩ := file
  obtain ⟨named, wellLabelled⟩ := wellFormed
  obtain ⟨table, rfl⟩ := wellLabelled.exists_table fun _ _ object => object.exists_listed
  cases named
  exact ⟨⟨table⟩, rfl⟩

theorem ListedPackage.WellFormed.exists_listed {label : Label} {package : ListedPackage}
    (wellFormed : package.WellFormed label) :
    ∃ original : Package, original.listed label = package := by
  obtain ⟨name, files⟩ := package
  obtain ⟨named, wellLabelled⟩ := wellFormed
  obtain ⟨table, rfl⟩ := wellLabelled.exists_table fun _ _ file => file.exists_listed
  cases named
  exact ⟨⟨table⟩, rfl⟩

/-- A well-formed listing is the listing of a program. -/
theorem Listing.WellFormed.exists_listed {listing : Listing} (wellFormed : listing.WellFormed) :
    ∃ program : Program, program.listed = listing := by
  obtain ⟨packages⟩ := listing
  obtain ⟨table, rfl⟩ :=
    WellLabelled.exists_table wellFormed fun _ _ package => package.exists_listed
  exact ⟨⟨table⟩, rfl⟩

/-- A type with all the shapes of expressions, and with an empty list of results. -/
def walkerSpec : TypeSpec :=
  ⟨"Walker",
    .interface
      [.mk ["Walk"]
        (.func
          [.mk [] (.pointer (.selector (.ident "ast") "Node")),
            .mk ["visit", "_"] (.func [.mk [] (.raw "chan int")] none),
            .mk ["rest"] (.variadic (.map (.ident "string") (.array (.ident "byte") none)))]
          (some []))],
    some [.mk ["T"] (.ident "any")]⟩

/-- A program in which one name stands for a package, a file and an object. -/
def walkerProgram : Program :=
  ⟨.ofEntries
    [(.text "walk", ⟨.ofEntries
      [(.text "walk", ⟨.ofEntries
        [(.text "walk", ⟨.func, none⟩), (.text "Walker", ⟨.type, some walkerSpec⟩),
          (.text "limit", ⟨.const, none⟩)]⟩),
        (.text "empty.go", ⟨.empty⟩)]⟩),
      (.bytes [0xff], ⟨.ofEntries
        [(.text "walk", ⟨.ofEntries [(.text "walk", ⟨.var, none⟩)]⟩)]⟩)]⟩

-- A package under a label that is not its name, and a kind that is none of the four.
example : ¬ Listing.WellFormed ⟨[(.text "a", ⟨.text "b", []⟩)]⟩ := by decide

example : ¬ ListedObject.WellFormed (.text "a") ⟨.text "a", "method", none⟩ := by decide

end FuncAdapter
