import FuncAdapter.Proofs.Adapter.Forwarding

/-!
# Lookup and the order of a program

Packages, files and objects are visited in the order in which they were scanned, and the first file
that binds a name decides.  The order of a scan is arbitrary, so a name that several files bind may
stand for different objects from scan to scan.

A name that at most one file of the whole program binds stands for the same object in every order.
The bindings of a name are listed from all files, a lookup takes the first of them, and reordering a
program on any of its three levels only reorders this list.
-/

namespace FuncAdapter

/-! ## Reordered programs -/

section Tables

variable {label value : Type}

/-- Two tables with the same labels in any order, and with related values under equal labels. -/
def Table.Reordered (related : value → value → Prop) (left right : Table label value) : Prop :=
  ∃ middle : List (label × value),
    left.entries.Perm middle ∧
      List.Forall₂ (fun first second => first.1 = second.1 ∧ related first.2 second.2)
        middle right.entries

/-- What is collected from reordered tables is the same up to order if it is for related values. -/
theorem Table.Reordered.perm_flatMap {related : value → value → Prop}
    {left right : Table label value} {result : Type} {collect : label × value → List result}
    (reordered : left.Reordered related right)
    (alike : ∀ key first second,
      related first second → (collect (key, first)).Perm (collect (key, second))) :
    (left.entries.flatMap collect).Perm (right.entries.flatMap collect) := by
  obtain ⟨middle, permuted, pairs⟩ := reordered
  refine (permuted.flatMap_right collect).trans ?_
  generalize right.entries = entries at pairs ⊢
  clear permuted
  induction pairs with
  | nil => exact .nil
  | @cons first second _ _ pair _ ih =>
      obtain ⟨key, stored⟩ := first
      obtain ⟨other, changed⟩ := second
      obtain ⟨rfl, values⟩ := pair
      rw [List.flatMap_cons, List.flatMap_cons]
      exact (alike key stored changed values).append ih

variable [DecidableEq label]

/-- Under distinct labels, a value is found exactly where its entry is. -/
theorem Entries.find?_eq_some_iff {key : label} {stored : value} {entries : List (label × value)}
    (distinct : (labels entries).Nodup) :
    find? key entries = some stored ↔ (key, stored) ∈ entries := by
  induction entries with
  | nil => simp
  | cons entry entries ih =>
      obtain ⟨other, first⟩ := entry
      rw [labels_cons, List.nodup_cons] at distinct
      rw [find?, List.mem_cons, Prod.mk.injEq]
      by_cases same : other = key
      · subst same
        have absent : (other, stored) ∉ entries := by
          intro member
          exact distinct.1 (List.mem_map.mpr ⟨(other, stored), member, rfl⟩)
        simp [absent, eq_comm]
      · simp [same, Ne.symm same, ih distinct.2]

/-- A table whose entries are permuted holds the same values under the same labels. -/
theorem Table.find?_of_perm {left right : Table label value}
    (permuted : left.entries.Perm right.entries) (key : label) :
    left.find? key = right.find? key := by
  ext stored
  rw [Table.find?, Table.find?, Entries.find?_eq_some_iff left.distinct,
    Entries.find?_eq_some_iff right.distinct]
  exact permuted.mem_iff

end Tables

/-- Two files with the same objects in any order. -/
def File.Reordered (left right : File) : Prop :=
  left.objects.entries.Perm right.objects.entries

/-- Two packages with the same files in any order, the objects in the files aside. -/
def Package.Reordered (left right : Package) : Prop :=
  left.files.Reordered File.Reordered right.files

/-- Two programs that differ in the order of packages, of files and of objects only. -/
def Program.Reordered (left right : Program) : Prop :=
  left.packages.Reordered Package.Reordered right.packages

/-! ## All bindings of a name -/

/-- The binding of a name in a file of a package, if there is one. -/
def File.bindings (package label : Label) (name : String) (file : File) : List Binding :=
  (file.objects.find? (.text name)).toList.map (Binding.mk package label)

/-- The bindings of a name in a package, one for each file that binds it. -/
def Package.bindings (label : Label) (name : String) (package : Package) : List Binding :=
  package.files.entries.flatMap fun entry => entry.2.bindings label entry.1 name

/-- The bindings of a name in a program, one for each file that binds it. -/
def Program.bindings (program : Program) (name : String) : List Binding :=
  program.packages.entries.flatMap fun entry => entry.2.bindings entry.1 name

theorem findInFiles_eq_head? (package : Label) (name : String) (files : List (Label × File)) :
    findInFiles package name files =
      (files.flatMap fun entry => entry.2.bindings package entry.1 name).head? := by
  induction files with
  | nil => rfl
  | cons entry files ih =>
      rw [findInFiles, List.flatMap_cons, List.head?_append, File.bindings]
      cases entry.2.objects.find? (.text name) with
      | none => exact ih
      | some object => rfl

theorem findInPackages_eq_head? (name : String) (packages : List (Label × Package)) :
    findInPackages name packages =
      (packages.flatMap fun entry => entry.2.bindings entry.1 name).head? := by
  induction packages with
  | nil => rfl
  | cons entry packages ih =>
      rw [findInPackages, findInFiles_eq_head?, List.flatMap_cons, List.head?_append, ih,
        Package.bindings]
      cases (entry.2.files.entries.flatMap fun file =>
        file.2.bindings entry.1 file.1 name).head? with
      | none => rfl
      | some binding => rfl

/-- A lookup gives the first of all bindings. -/
theorem Program.find?_eq_head? (program : Program) (name : String) :
    program.find? name = (program.bindings name).head? :=
  findInPackages_eq_head? name program.packages.entries

theorem File.Reordered.bindings_eq {left right : File} (reordered : left.Reordered right)
    (package label : Label) (name : String) :
    left.bindings package label name = right.bindings package label name := by
  rw [File.bindings, File.bindings, Table.find?_of_perm reordered]

theorem Package.Reordered.perm_bindings {left right : Package} (reordered : left.Reordered right)
    (label : Label) (name : String) :
    (left.bindings label name).Perm (right.bindings label name) := by
  apply Table.Reordered.perm_flatMap reordered
  intro key first second files
  rw [files.bindings_eq]

/-- Reordering a program reorders the bindings of every name. -/
theorem Program.Reordered.perm_bindings {left right : Program} (reordered : left.Reordered right)
    (name : String) :
    (left.bindings name).Perm (right.bindings name) := by
  apply Table.Reordered.perm_flatMap reordered
  intro key first second packages
  exact packages.perm_bindings key name

/-! ## Lookup and generation -/

theorem eq_of_perm_of_length_le_one {element : Type} {left right : List element}
    (permuted : left.Perm right) (short : left.length ≤ 1) :
    left = right := by
  rcases left with _ | ⟨first, _ | ⟨second, rest⟩⟩
  · exact permuted.nil_eq
  · exact List.singleton_perm.mp permuted
  · rw [List.length_cons, List.length_cons] at short
    omega

/-- A program enters into a lookup only through the binding of the name. -/
theorem Target.resolve_of_find?_eq {query : Query} {left right : Program}
    (found : left.find? query.name = right.find? query.name) :
    Target.resolve query left = Target.resolve query right := by
  rw [Target.resolve, Target.resolve, found]

/--
When at most one file of a program binds a name, the program can be reordered on all levels without
any effect on the name: its only binding is still found, it stands for the same interface or is
refused for the same cause, and the same declarations are generated or the same error is met.
-/
theorem generate_of_reordered {program other : Program} {name : String}
    (reordered : program.Reordered other) (single : (program.bindings name).length ≤ 1) :
    other.find? name = program.find? name ∧
      (∀ binding ∈ program.bindings name, other.find? name = some binding) ∧
      ∀ location,
        Target.resolve ⟨location, name⟩ other = Target.resolve ⟨location, name⟩ program ∧
          Adapter.generate ⟨location, name⟩ other = Adapter.generate ⟨location, name⟩ program := by
  have same : program.bindings name = other.bindings name :=
    eq_of_perm_of_length_le_one (reordered.perm_bindings name) single
  have found : other.find? name = program.find? name := by
    rw [Program.find?_eq_head?, Program.find?_eq_head?, same]
  refine ⟨found, ?_, ?_⟩
  · intro binding member
    obtain ⟨only, isOnly⟩ := List.length_eq_one_iff.mp
      (Nat.le_antisymm single (List.length_pos_of_mem member))
    rw [isOnly, List.mem_singleton] at member
    rw [found, Program.find?_eq_head?, isOnly, member, List.head?_singleton]
  · intro location
    have resolved : Target.resolve ⟨location, name⟩ other =
        Target.resolve ⟨location, name⟩ program :=
      Target.resolve_of_find?_eq found
    refine ⟨resolved, ?_⟩
    rw [Adapter.generate, Adapter.generate, resolved]

/-- A program that binds one name in three files, and the name of an interface in one of them. -/
def scannedProgram : Program :=
  ⟨.ofEntries
    [(.text "p", ⟨.ofEntries
      [(.text "a.go", ⟨.ofEntries
        [(.text "Version", ⟨.const, none⟩), (.text "Mixer", ⟨.type, some Adapter.mixerSpec⟩)]⟩),
        (.text "b.go", ⟨.ofEntries [(.text "Version", ⟨.var, none⟩)]⟩)]⟩),
      (.text "q", ⟨.ofEntries
        [(.text "c.go", ⟨.ofEntries [(.text "Version", ⟨.func, none⟩)]⟩)]⟩)]⟩

/-- The same program with its packages, the files of one and the objects of one the other way. -/
def rescannedProgram : Program :=
  ⟨.ofEntries
    [(.text "q", ⟨.ofEntries
      [(.text "c.go", ⟨.ofEntries [(.text "Version", ⟨.func, none⟩)]⟩)]⟩),
      (.text "p", ⟨.ofEntries
        [(.text "b.go", ⟨.ofEntries [(.text "Version", ⟨.var, none⟩)]⟩),
          (.text "a.go", ⟨.ofEntries
            [(.text "Mixer", ⟨.type, some Adapter.mixerSpec⟩),
              (.text "Version", ⟨.const, none⟩)]⟩)]⟩)]⟩

theorem reordered_rescannedProgram : scannedProgram.Reordered rescannedProgram := by
  refine ⟨_, .swap _ _ [], ?_⟩
  refine .cons ⟨rfl, ?_⟩ (.cons ⟨rfl, ?_⟩ .nil)
  · exact ⟨_, .refl _, .cons ⟨rfl, .refl _⟩ .nil⟩
  · exact ⟨_, .swap _ _ [], .cons ⟨rfl, .refl _⟩ (.cons ⟨rfl, .swap _ _ []⟩ .nil)⟩

theorem generate_of_reordered_rescanned :
    scannedProgram.Reordered rescannedProgram ∧
      (scannedProgram.bindings "Mixer").length ≤ 1 ∧
      (rescannedProgram.find? "Mixer").map Binding.package = some (.text "p") ∧
      Adapter.generate ⟨"./p", "Mixer"⟩ rescannedProgram =
        Adapter.generate ⟨"./p", "Mixer"⟩ scannedProgram := by
  have single : (scannedProgram.bindings "Mixer").length ≤ 1 := by
    decide
  obtain ⟨found, -, generated⟩ := generate_of_reordered reordered_rescannedProgram single
  refine ⟨reordered_rescannedProgram, single, ?_, (generated "./p").2⟩
  rw [found]
  rfl

end FuncAdapter
