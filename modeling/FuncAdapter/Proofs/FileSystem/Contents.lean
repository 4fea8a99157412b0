import FuncAdapter.Proofs.FileSystem.Tree

/-!
# What file operations do to the contents of files

Creating directories changes no file, whether it succeeds or fails on the way.  Writing a file
changes the content at one location, the one that its path leads to afterwards, and a write that
fails changes nothing.

An operation that fails meets an obstacle of the operating system, unless the path that it was given
holds a null byte.  A name that is too long is an obstacle wherever it is looked up.
-/

namespace FuncAdapter

theorem Path.splitSlashes_of_notMem {characters : List Char} (plain : '/' ∉ characters)
    (part : List Char) :
    Path.splitSlashes part characters = [String.ofList (part.reverse ++ characters)] := by
  induction characters generalizing part with
  | nil => simp [Path.splitSlashes]
  | cons character characters ih =>
      rw [List.mem_cons, not_or] at plain
      rw [Path.splitSlashes]
      · rw [ih plain.2, List.reverse_cons, List.append_assoc, List.singleton_append]
      · exact fun same => plain.1 same.symm

/-- A text without slashes is the path of one part, unless it stands for no part. -/
theorem Path.ofString_of_notMem {text : String} (plain : '/' ∉ text.toList) (some : text ≠ "")
    (other : text ≠ ".") :
    Path.ofString text = ⟨.workingDirectory, [text]⟩ := by
  have leading : text.toList.takeWhile (· == '/') = [] := by
    cases characters : text.toList with
    | nil => rfl
    | cons first rest =>
        rw [characters, List.mem_cons, not_or] at plain
        simp [Ne.symm plain.1]
  rw [Path.ofString, leading, Path.splitSlashes_of_notMem plain]
  simp [Path.anchorOf, some, other]

namespace FileTree

/-- The content of the file at a location, if there is a file. -/
def content? (tree : FileTree) (location : Location) : Option (List UInt8) :=
  match tree.entry? location with
  | some (.file content) => some content
  | _ => none

theorem content?_of_entry?_eq {old new : FileTree} {location : Location}
    (same : new.entry? location = old.entry? location) :
    new.content? location = old.content? location := by
  rw [content?, content?, same]

theorem content?_put (tree : FileTree) (location other : Location) (content : List UInt8) :
    (tree.put location (.file content)).content? other =
      if other ≠ [] ∧ location = other then some content else tree.content? other := by
  rw [content?, entry?_put]
  split_ifs <;> rfl

/-- What is read from a path is the content at the location that the path leads to. -/
theorem readFile_of_content? {tree : FileTree} {path : Path} {location : Location}
    {content : List UInt8} (located : tree.locate path = .ok location)
    (stored : tree.content? location = some content) :
    tree.readFile path = .ok content := by
  rw [content?] at stored
  split at stored
  · next found =>
      cases stored
      rw [readFile, located]
      simp only [found]
  · cases stored

/-! ## Operations that change no file -/

/-- Two trees with the same contents at all locations. -/
def SameFiles (old new : FileTree) : Prop :=
  ∀ location, new.content? location = old.content? location

theorem SameFiles.refl (tree : FileTree) : SameFiles tree tree :=
  fun _ => rfl

theorem SameFiles.trans {first second third : FileTree}
    (early : SameFiles first second) (late : SameFiles second third) :
    SameFiles first third :=
  fun location => (late location).trans (early location)

theorem sameFiles_of_makeDirectory {tree changed : FileTree} {path : Path}
    (made : tree.makeDirectory path = .ok changed) :
    SameFiles tree changed := by
  rw [makeDirectory] at made
  split at made
  · cases made
  · next location _ =>
      split at made
      · cases made
      · next free =>
          cases made
          intro other
          rw [content?, entry?_put]
          split_ifs with here
          · rw [content?, ← here.2, free]
          · rfl

theorem sameFiles_ensured (tree : FileTree) (path : Path) :
    SameFiles tree (tree.ensured (tree.ensureDirectory path)).1 := by
  rw [ensureDirectory]
  split
  · next made => exact sameFiles_of_makeDirectory made
  · split <;> exact .refl tree

theorem sameFiles_ensureDirectoriesFrom (tree : FileTree) (anchor : Anchor)
    (parts : List String) :
    SameFiles tree (tree.ensureDirectoriesFrom anchor parts).1 := by
  induction parts with
  | nil => exact sameFiles_ensured tree ⟨anchor, []⟩
  | cons part above ih =>
      rw [ensureDirectoriesFrom]
      split
      · split
        · next prepared prepares =>
            rw [prepares] at ih
            exact ih.trans (sameFiles_ensured prepared ⟨anchor, (part :: above).reverse⟩)
        · next prepared error prepares =>
            rw [prepares] at ih
            exact ih
      · exact sameFiles_ensured tree ⟨anchor, (part :: above).reverse⟩

/-- Creating a directory with those above it changes no file, also when it fails half way. -/
theorem sameFiles_ensureDirectories (tree : FileTree) (path : Path) :
    SameFiles tree (tree.ensureDirectories path).1 :=
  sameFiles_ensureDirectoriesFrom tree path.anchor path.parts.reverse

/-! ## Writing -/

/-- The content at one location is written, and all other contents are as before. -/
structure Writes (old : FileTree) (location : Location) (content : List UInt8)
    (new : FileTree) : Prop where
  written : new.content? location = some content
  others : ∀ other, other ≠ location → new.content? other = old.content? other

theorem SameFiles.writes {first second third : FileTree} {location : Location}
    {content : List UInt8} (early : SameFiles first second)
    (late : Writes second location content third) :
    Writes first location content third where
  written := late.written
  others other elsewhere := (late.others other elsewhere).trans (early other)

theorem writes_of_writeFile {tree changed : FileTree} {path : Path} {content : List UInt8}
    (written : tree.writeFile path content = .ok changed) :
    ∃ location, changed.locate path = .ok location ∧ Writes tree location content changed := by
  have keeps := (readFile_of_writeFile written).1
  rw [writeFile] at written
  split at written
  · cases written
  · next location located =>
      split at written
      · cases written
      · next free =>
          cases written
          have notRoot : location ≠ [] := by
            rintro rfl
            exact free rfl
          refine ⟨location, keeps.locate located, ?_, ?_⟩
          · rw [content?_put, if_pos ⟨notRoot, rfl⟩]
          · intro other elsewhere
            rw [content?_put, if_neg fun here => elsewhere here.2.symm]

/-! ## Paths that do not reach the operating system -/

/-- Parts lead nowhere because something is missing, is a file on the way, or is too long. -/
theorem obstacle_of_follow {tree : FileTree} {parts : List String} {location : Location}
    {obstacle : Obstacle} (failed : tree.follow location parts = .error obstacle) :
    obstacle = .notFound ∨ obstacle = .notDirectory ∨ obstacle = .nameTooLong := by
  induction parts generalizing location with
  | nil => cases failed
  | cons part parts ih =>
      rw [follow] at failed
      split at failed
      · split at failed
        · cases failed
          exact .inr (.inr rfl)
        · exact ih failed
      · cases failed
        exact .inr (.inl rfl)
      · cases failed
        exact .inl rfl

theorem cause_of_locate {tree : FileTree} {path : Path} {error : FileError}
    (failed : tree.locate path = .error error) :
    error = .nullByte ∧ path.holdsNull = true ∨
      ∃ obstacle, error = .met obstacle path ∧
        (obstacle = .notFound ∨ obstacle = .notDirectory ∨ obstacle = .nameTooLong) := by
  rw [locate] at failed
  split_ifs at failed with null long
  · cases failed
    exact .inl ⟨rfl, null⟩
  · cases failed
    exact .inr ⟨.nameTooLong, rfl, .inr (.inr rfl)⟩
  · cases followed : tree.follow (tree.start path.anchor) path.parts with
    | error obstacle =>
        rw [followed] at failed
        cases failed
        exact .inr ⟨obstacle, rfl, obstacle_of_follow followed⟩
    | ok location =>
        rw [followed] at failed
        cases failed

theorem holdsNull_of_locate {tree : FileTree} {path : Path}
    (failed : tree.locate path = .error .nullByte) :
    path.holdsNull = true := by
  rcases cause_of_locate failed with ⟨-, null⟩ | ⟨obstacle, met, -⟩
  · exact null
  · cases met

theorem holdsNull_of_makeDirectory {tree : FileTree} {path : Path}
    (failed : tree.makeDirectory path = .error .nullByte) :
    path.holdsNull = true := by
  rw [makeDirectory] at failed
  split at failed
  · next unlocated =>
      cases failed
      exact holdsNull_of_locate unlocated
  · split at failed <;> cases failed

theorem holdsNull_of_ensured {tree : FileTree} {path : Path}
    (failed : (tree.ensured (tree.ensureDirectory path)).2 = .error .nullByte) :
    path.holdsNull = true := by
  rw [ensureDirectory] at failed
  split at failed
  · cases failed
  · next unmade =>
      split at failed
      · cases failed
      · cases failed
        exact holdsNull_of_makeDirectory unmade

theorem holdsNull_of_ensureDirectoriesFrom {tree : FileTree} {anchor : Anchor}
    {parts : List String}
    (failed : (tree.ensureDirectoriesFrom anchor parts).2 = .error .nullByte) :
    Path.holdsNull ⟨anchor, parts.reverse⟩ = true := by
  induction parts with
  | nil => exact holdsNull_of_ensured failed
  | cons part above ih =>
      rw [ensureDirectoriesFrom] at failed
      split at failed
      · split at failed
        · exact holdsNull_of_ensured failed
        · next prepares =>
            cases failed
            rw [prepares] at ih
            have null := ih rfl
            rw [Path.holdsNull] at null
            rw [Path.holdsNull, List.reverse_cons, List.any_append, null, Bool.true_or]
      · exact holdsNull_of_ensured failed

theorem holdsNull_of_ensureDirectories {tree : FileTree} {path : Path}
    (failed : (tree.ensureDirectories path).2 = .error .nullByte) :
    path.holdsNull = true := by
  have null := holdsNull_of_ensureDirectoriesFrom failed
  rw [List.reverse_reverse] at null
  exact null

theorem holdsNull_of_writeFile {tree : FileTree} {path : Path} {content : List UInt8}
    (failed : tree.writeFile path content = .error .nullByte) :
    path.holdsNull = true := by
  rw [writeFile] at failed
  split at failed
  · next unlocated =>
      cases failed
      exact holdsNull_of_locate unlocated
  · split at failed <;> cases failed

theorem resolve_eq_error_iff {tree : FileTree} {path : Path} {error : FileError} :
    tree.resolve path = .error error ↔ error = .nullByte ∧ path.holdsNull = true := by
  rw [resolve]
  split
  · next null => simp [null, eq_comm]
  · next fit => simp [fit]

/-- Asking for a directory fails only at names that the operating system does not take. -/
theorem probeDirectory_eq_error_iff {tree : FileTree} {path : Path} {error : FileError} :
    tree.probeDirectory path = .error error ↔
      tree.locate path = .error error ∧ (error = .nullByte ∨ error = .met .nameTooLong path) := by
  rw [probeDirectory]
  constructor
  · intro failed
    split at failed
    · cases failed
    · cases failed
    · cases failed
    · next missing file unlocated =>
        cases failed
        refine ⟨unlocated, ?_⟩
        rcases cause_of_locate unlocated with ⟨null, -⟩ | ⟨obstacle, rfl, rfl | rfl | rfl⟩
        · exact .inl null
        · exact absurd rfl (missing path)
        · exact absurd rfl (file path)
        · exact .inr rfl
  · rintro ⟨unlocated, rfl | rfl⟩
    · rw [unlocated]
    · rw [unlocated]

theorem holdsNull_of_readFile {tree : FileTree} {path : Path}
    (failed : tree.readFile path = .error .nullByte) :
    path.holdsNull = true := by
  rw [readFile] at failed
  split at failed
  · next unlocated =>
      cases failed
      exact holdsNull_of_locate unlocated
  · split at failed <;> cases failed

theorem holdsNull_of_parent {path : Path} (null : path.parent.holdsNull = true) :
    path.holdsNull = true := by
  rw [Path.holdsNull, List.any_eq_true] at null ⊢
  obtain ⟨part, member, holds⟩ := null
  exact ⟨part, List.dropLast_subset _ member, holds⟩

/-! ## Names that are too long -/

/-- A name that is too long is an obstacle in every directory. -/
theorem follow_of_overlong {tree : FileTree} {location : Location} {part : String}
    {parts : List String} (there : tree.entry? location = some .directory)
    (long : nameLimit < part.utf8ByteSize) :
    tree.follow location (part :: parts) = .error .nameTooLong := by
  rw [follow, there]
  exact if_pos long

theorem follow_append {tree : FileTree} {location : Location} (first second : List String) :
    tree.follow location (first ++ second) =
      tree.follow location first >>= fun middle => tree.follow middle second := by
  induction first generalizing location with
  | nil => rfl
  | cons part parts ih =>
      rw [List.cons_append, follow, follow]
      split
      · split
        · rfl
        · exact ih
      · rfl
      · rfl

theorem of_locate_eq_ok {tree : FileTree} {path : Path} {location : Location}
    (located : tree.locate path = .ok location) :
    path.holdsNull = false ∧ tree.follow (tree.start path.anchor) path.parts = .ok location := by
  rw [locate] at located
  split_ifs at located with null
  refine ⟨Bool.eq_false_iff.mpr null, ?_⟩
  cases followed : tree.follow (tree.start path.anchor) path.parts with
  | error obstacle =>
      rw [followed] at located
      cases located
  | ok place =>
      rw [followed] at located
      cases located
      rfl

theorem locate_of_nameTooLong {tree : FileTree} {path : Path} (fit : path.holdsNull = false)
    (followed : tree.follow (tree.start path.anchor) path.parts = .error .nameTooLong) :
    tree.locate path = .error (.met .nameTooLong path) := by
  rw [locate, fit, followed]
  simp only [Bool.false_eq_true, if_false]
  split <;> rfl

/-! ## Names that are not in use -/

theorem step_eq_of_follow {tree : FileTree} {location result : Location} {part : String}
    (followed : tree.follow location [part] = .ok result) :
    step location part = result := by
  rw [follow] at followed
  split at followed
  · split at followed
    · cases followed
    · exact Except.ok.inj followed
  · cases followed
  · cases followed

/-- Parts lead to where the last of them leads from some location. -/
theorem exists_step_of_follow {tree : FileTree} {location result : Location} {part : String}
    {parts : List String} (followed : tree.follow location (parts ++ [part]) = .ok result) :
    ∃ parent, step parent part = result := by
  rw [follow_append] at followed
  cases above : tree.follow location parts with
  | error obstacle =>
      rw [above] at followed
      cases followed
  | ok parent =>
      rw [above] at followed
      exact ⟨parent, step_eq_of_follow followed⟩

theorem freshPart_ne_parent (tree : FileTree) {stem : String} (long : 1 < stem.length) :
    tree.freshPart stem ≠ ".." := by
  intro same
  have lengths := congrArg String.length same
  have two : "..".length = 2 := rfl
  simp only [freshPart, String.length_append, String.length_ofList, List.length_replicate, two]
    at lengths
  omega

/-- Nothing is found under a path whose last part is not in use. -/
theorem lookup_child_freshPart {old new : FileTree} {stem : String} (long : 1 < stem.length)
    (same : ∀ location, new.entry? location = old.entry? location) (path : Path) :
    new.lookup (path.child (old.freshPart stem)) = none := by
  rw [lookup]
  split
  · next location located =>
      obtain ⟨-, followed⟩ := of_locate_eq_ok located
      obtain ⟨parent, rfl⟩ := exists_step_of_follow followed
      rw [same, step, if_neg (old.freshPart_ne_parent long)]
      exact entry?_below_freshPart (List.prefix_refl _)
  · rfl

end FileTree

/-- A name that is a path of one part and longer than names may be. -/
structure OverlongName (name : String) : Prop where
  noSlash : '/' ∉ name.toList
  noNull : '\x00' ∉ name.toList
  long : nameLimit < name.utf8ByteSize

theorem OverlongName.ne {name text : String} (overlong : OverlongName name)
    (short : text.utf8ByteSize ≤ nameLimit) : name ≠ text := by
  rintro rfl
  exact absurd overlong.long (Nat.not_lt.mpr short)

theorem OverlongName.ofString {name : String} (overlong : OverlongName name) :
    Path.ofString name = ⟨.workingDirectory, [name]⟩ :=
  Path.ofString_of_notMem overlong.noSlash (overlong.ne (by decide)) (overlong.ne (by decide))

theorem overlongName_replicate {count : Nat} (many : nameLimit < count) :
    OverlongName (String.ofList (List.replicate count 'x')) := by
  have same : ∀ {character}, character ∈ (String.ofList (List.replicate count 'x')).toList →
      character = 'x' := by
    intro character member
    rw [String.toList_ofList] at member
    exact List.eq_of_mem_replicate member
  have size : ∀ count, (String.ofList (List.replicate count 'x')).utf8ByteSize = count := by
    intro count
    induction count with
    | zero => rfl
    | succ count ih =>
        rw [List.replicate_succ', String.ofList_append, String.utf8ByteSize_append, ih]
        rfl
  constructor
  · exact fun member => absurd (same member) (by decide)
  · exact fun member => absurd (same member) (by decide)
  · rw [size]
    exact many

/-- The working directory is there, and every name on the way to it can be looked up. -/
structure Housed (tree : FileTree) : Prop where
  located : tree.locate ⟨.root, tree.workingDirectory⟩ = .ok tree.workingDirectory
  directory : tree.entry? tree.workingDirectory = some .directory

theorem OverlongName.readFile {name : String} (overlong : OverlongName name) {tree : FileTree}
    (housed : Housed tree) :
    tree.readFile (Path.ofString name) =
      .error (.met .nameTooLong ⟨.workingDirectory, [name]⟩) := by
  have located : tree.locate ⟨.workingDirectory, [name]⟩ =
      .error (.met .nameTooLong ⟨.workingDirectory, [name]⟩) := by
    apply FileTree.locate_of_nameTooLong
    · simp [Path.holdsNull, overlong.noNull]
    · exact FileTree.follow_of_overlong housed.directory overlong.long
  rw [overlong.ofString, FileTree.readFile, located]

end FuncAdapter
