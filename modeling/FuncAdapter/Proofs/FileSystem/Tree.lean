import FuncAdapter.FileSystem.Tree
import Mathlib.Data.List.Fold
import Mathlib.Data.List.MinMax

/-!
# What file operations leave in place

No operation on a file tree takes a directory away or puts a file in its place.  A path that leads
somewhere therefore leads to the same location after any of them, and a file that was written is
found again under its path.
-/

namespace FuncAdapter

theorem Entries.find?_filter {label value : Type} [DecidableEq label] (kept : label → Bool)
    (key : label) (entries : List (label × value)) :
    find? key (entries.filter fun entry => kept entry.1) =
      if kept key then find? key entries else none := by
  induction entries with
  | nil => simp
  | cons entry entries ih =>
      obtain ⟨other, stored⟩ := entry
      by_cases same : other = key
      · subst same
        by_cases keep : kept other = true
        · simp [keep, find?]
        · simp [keep, ih]
      · by_cases keep : kept other = true
        · simp [keep, find?, same, ih]
        · simp [keep, find?, same, ih]

theorem Entries.mem_labels_of_find? {label value : Type} [DecidableEq label] {key : label}
    {stored : value} {entries : List (label × value)} (found : find? key entries = some stored) :
    key ∈ labels entries := by
  induction entries with
  | nil => exact nomatch found
  | cons entry entries ih =>
      obtain ⟨other, value⟩ := entry
      rw [find?] at found
      rw [labels_cons, List.mem_cons]
      split at found
      · next same => exact .inl same.symm
      · exact .inr (ih found)

namespace FileTree

/-! ## Entries -/

theorem entry?_put (tree : FileTree) (location other : Location) (entry : Entry) :
    entry? (tree.put location entry) other =
      if other ≠ [] ∧ location = other then some entry else tree.entry? other := by
  cases other with
  | nil => rfl
  | cons part parts => simp [ entry?, put, Entries.find?_store]

theorem entry?_remove (tree : FileTree) (location other : Location) (below : location ≠ []) :
    entry? (tree.remove location) other =
      if location <+: other then none else tree.entry? other := by
  cases other with
  | nil => simp [ entry?, below]
  | cons part parts =>
      simp only [ entry?, remove]
      rw [Entries.find?_filter (fun label => !location.isPrefixOf label)]
      by_cases inside : location <+: part :: parts
      · simp [inside, List.isPrefixOf_iff_prefix.mpr inside]
      · have outside : location.isPrefixOf (part :: parts) = false := by
          rw [← Bool.not_eq_true, List.isPrefixOf_iff_prefix]
          exact inside
        simp [inside, outside]

/-! ## Directories stay -/

/-- After some operations, every directory is still there and the working directory is the same. -/
structure KeepsDirectories (old new : FileTree) : Prop where
  workingDirectory : new.workingDirectory = old.workingDirectory
  directory : ∀ {location}, old.entry? location = some .directory →
    new.entry? location = some .directory

theorem KeepsDirectories.refl (tree : FileTree) : KeepsDirectories tree tree :=
  ⟨rfl, id⟩

theorem KeepsDirectories.trans {first second third : FileTree}
    (early : KeepsDirectories first second) (late : KeepsDirectories second third) :
    KeepsDirectories first third :=
  ⟨late.workingDirectory.trans early.workingDirectory,
    fun found => late.directory (early.directory found)⟩

theorem keepsDirectories_put {tree : FileTree} {location : Location} {entry : Entry}
    (harmless : entry = .directory ∨ tree.entry? location ≠ some .directory) :
    KeepsDirectories tree (tree.put location entry) := by
  refine ⟨rfl, fun {other} found => ?_⟩
  rw [entry?_put]
  split
  · next here =>
      rcases harmless with rfl | free
      · rfl
      · rw [here.2] at free
        exact absurd found free
  · exact found

section Keeping

variable {old new : FileTree} (keeps : KeepsDirectories old new)
include keeps

theorem KeepsDirectories.follow {parts : List String} {location result : Location}
    (found : old.follow location parts = .ok result) :
    new.follow location parts = .ok result := by
  induction parts generalizing location with
  | nil => exact found
  | cons part parts ih =>
      rw [FileTree.follow] at found ⊢
      split at found
      · next isDirectory =>
          rw [keeps.directory isDirectory]
          split at found
          · cases found
          · next short =>
              simp only [if_neg short]
              exact ih found
      · cases found
      · cases found

theorem KeepsDirectories.start (anchor : Anchor) : new.start anchor = old.start anchor := by
  cases anchor <;> simp [FileTree.start, keeps.workingDirectory]

theorem KeepsDirectories.resolve (path : Path) : new.resolve path = old.resolve path := by
  rw [FileTree.resolve, FileTree.resolve, keeps.start]

/-- A path that leads somewhere still leads there. -/
theorem KeepsDirectories.locate {path : Path} {location : Location}
    (found : old.locate path = .ok location) : new.locate path = .ok location := by
  rw [FileTree.locate] at found ⊢
  split at found
  · cases found
  · next noNull =>
      split at found
      · cases found
      · next short =>
          rw [if_neg noNull, if_neg short, keeps.start]
          cases followed : old.follow (old.start path.anchor) path.parts with
          | error obstacle =>
              rw [followed] at found
              cases found
          | ok result =>
              rw [followed] at found
              rw [keeps.follow followed]
              exact found

end Keeping

theorem isDirectory_iff {tree : FileTree} {path : Path} :
    tree.isDirectory path = true ↔
      ∃ location, tree.locate path = .ok location ∧
        tree.entry? location = some .directory := by
  rw [isDirectory, lookup]
  split
  · next location found => simp [found]
  · next failed => simp [failed]

theorem probeDirectory_eq_true_iff {tree : FileTree} {path : Path} :
    tree.probeDirectory path = .ok true ↔ tree.isDirectory path = true := by
  rw [isDirectory_iff, probeDirectory]
  split <;> simp [*]

theorem KeepsDirectories.isDirectory {old new : FileTree} (keeps : KeepsDirectories old new)
    {path : Path} (there : old.isDirectory path = true) : new.isDirectory path = true := by
  obtain ⟨location, found, isDirectory⟩ := isDirectory_iff.mp there
  exact isDirectory_iff.mpr ⟨location, keeps.locate found, keeps.directory isDirectory⟩

/-! ## Creating directories -/

/-- An attempt to create a directory loses no directory, and if it succeeds, this one is there. -/
def Ensures (tree : FileTree) (path : Path) (after : FileTree × Except FileError Unit) : Prop :=
  KeepsDirectories tree after.1 ∧ (after.2 = .ok () → after.1.isDirectory path = true)

theorem isDirectory_of_makeDirectory {tree changed : FileTree} {path : Path}
    (made : tree.makeDirectory path = .ok changed) :
    KeepsDirectories tree changed ∧ changed.isDirectory path = true := by
  rw [makeDirectory] at made
  split at made
  · cases made
  · next location found =>
      split at made
      · cases made
      · next free =>
          cases made
          have keeps : KeepsDirectories tree (tree.put location .directory) :=
            keepsDirectories_put (.inl rfl)
          have notRoot : location ≠ [] := by
            rintro rfl
            exact nomatch free
          refine ⟨keeps, isDirectory_iff.mpr ⟨location, keeps.locate found, ?_⟩⟩
          rw [entry?_put, if_pos ⟨notRoot, rfl⟩]

theorem ensures_ensured (tree : FileTree) (path : Path) :
    Ensures tree path (tree.ensured (tree.ensureDirectory path)) := by
  rw [ensureDirectory]
  split
  · next made =>
      obtain ⟨keeps, there⟩ := isDirectory_of_makeDirectory made
      exact ⟨keeps, fun _ => there⟩
  · split
    · next there => exact ⟨.refl tree, fun _ => there⟩
    · exact ⟨.refl tree, nofun⟩

theorem ensures_ensureDirectoriesFrom (tree : FileTree) (anchor : Anchor) (parts : List String) :
    Ensures tree ⟨anchor, parts.reverse⟩ (tree.ensureDirectoriesFrom anchor parts) := by
  induction parts with
  | nil => exact ensures_ensured tree ⟨anchor, []⟩
  | cons part above ih =>
      rw [ensureDirectoriesFrom]
      split
      · split
        · next prepared prepares =>
            rw [prepares] at ih
            obtain ⟨keeps, there⟩ := ensures_ensured prepared ⟨anchor, (part :: above).reverse⟩
            exact ⟨ih.1.trans keeps, there⟩
        · next prepared error prepares =>
            rw [prepares] at ih
            exact ⟨ih.1, nofun⟩
      · exact ensures_ensured tree ⟨anchor, (part :: above).reverse⟩

/-- Creating a directory with those above it keeps all directories and leaves it in place. -/
theorem ensures_ensureDirectories (tree : FileTree) (path : Path) :
    Ensures tree path (tree.ensureDirectories path) := by
  have ensures := ensures_ensureDirectoriesFrom tree path.anchor path.parts.reverse
  rw [List.reverse_reverse] at ensures
  exact ensures

/-- Creating a directory that is there changes nothing. -/
theorem ensureDirectories_of_isDirectory {tree : FileTree} {path : Path}
    (there : tree.isDirectory path = true) : tree.ensureDirectories path = (tree, .ok ()) := by
  have ensured : tree.ensureDirectory path = .ok tree := by
    obtain ⟨location, found, isDirectory⟩ := isDirectory_iff.mp there
    rw [ensureDirectory, makeDirectory, found]
    simp only [isDirectory]
    rw [if_pos there]
  obtain ⟨anchor, parts⟩ := path
  rw [ensureDirectories]
  cases reversed : parts.reverse with
  | nil =>
      rw [List.reverse_eq_nil_iff] at reversed
      subst reversed
      rw [ensureDirectoriesFrom, ensured]
      rfl
  | cons part above =>
      have same : (part :: above).reverse = parts := by rw [← reversed, List.reverse_reverse]
      rw [ensureDirectoriesFrom, same, ensured]
      rfl

/-! ## Writing files -/

/-- A file that was written is read under its path, and no directory is lost. -/
theorem readFile_of_writeFile {tree changed : FileTree} {path : Path} {content : List UInt8}
    (written : tree.writeFile path content = .ok changed) :
    KeepsDirectories tree changed ∧ changed.readFile path = .ok content := by
  rw [writeFile] at written
  split at written
  · cases written
  · next location found =>
      split at written
      · cases written
      · next free =>
          cases written
          have keeps : KeepsDirectories tree (tree.put location (.file content)) :=
            keepsDirectories_put (.inr free)
          have notRoot : location ≠ [] := by
            rintro rfl
            exact free rfl
          refine ⟨keeps, ?_⟩
          rw [readFile, keeps.locate found]
          simp [entry?_put, notRoot]

/-! ## Names that are not in use -/

theorem le_foldl_max {number : Nat} {numbers : List Nat} (member : number ∈ numbers) :
    number ≤ numbers.foldl max 0 := by
  rw [List.foldl_eq_foldr]
  exact List.le_max_of_le' 0 member le_rfl

/-- A fresh part is longer than any part in use. -/
theorem freshPart_notMem {tree : FileTree} {location : Location} (stem : String)
    (used : location ∈ Entries.labels tree.entries) : tree.freshPart stem ∉ location := by
  intro member
  obtain ⟨entry, inTree, rfl⟩ := List.mem_map.mp used
  have inLocation := le_foldl_max (List.mem_map_of_mem (f := String.length) member)
  have inEntries := le_foldl_max (List.mem_map_of_mem
    (f := fun entry : Location × Entry => (entry.1.map String.length).foldl max 0) inTree)
  have length : (tree.freshPart stem).length =
      stem.length + ((tree.entries.map fun entry =>
        (entry.1.map String.length).foldl max 0).foldl max 0 + 1) := by
    simp [freshPart]
  omega

/-- Nothing stands at or below a fresh location. -/
theorem entry?_below_freshPart {tree : FileTree} {parent location : Location} {stem : String}
    (below : parent ++ [tree.freshPart stem] <+: location) : tree.entry? location = none := by
  have inLocation : tree.freshPart stem ∈ location := below.subset (by simp)
  cases location with
  | nil => exact nomatch inLocation
  | cons part parts =>
      cases found : Entries.find? (part :: parts) tree.entries with
      | none => exact found
      | some entry =>
          have used := Entries.mem_labels_of_find? found
          exact absurd inLocation (freshPart_notMem stem used)

end FileTree

end FuncAdapter
