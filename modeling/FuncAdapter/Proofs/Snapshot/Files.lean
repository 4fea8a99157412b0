import FuncAdapter.Proofs.FileSystem.Contents
import FuncAdapter.Proofs.Snapshot.RoundTrip

/-!
# Snapshot files

Saving a snapshot creates the directories above it and writes one file.  Nothing that was a
directory is lost on the way, no other file is changed, and what is read from the path afterwards is
the program that was saved.  Saving that fails changes no file.
-/

namespace FuncAdapter.Snapshot

theorem load_dump_of_wellFormed {program : Program} (wellFormed : program.WellFormed)
    (short : MessagePack.longest (envelope program) < 2 ^ 32)
    (shallow : MessagePack.depth (envelope program) ≤ 1024) :
    load (dump program) = .ok program := by
  rw [load, dump, MessagePack.decode_write (regular_envelope program) short shallow]
  exact mapError_eq_ok_iff.mpr (Program.ofDocument_toDocument wellFormed)

theorem read_of_readFile {tree : FileTree} {path : Path} {bytes : List UInt8}
    (stored : tree.readFile path = .ok bytes) : read tree path = load bytes := by
  rw [read, stored]
  rfl

/-! ## Saving -/

/-- Saving succeeds when the directory is prepared and the file is written. -/
theorem of_save_eq_ok {tree : FileTree} {path : Path} {program : Program}
    (saves : (save tree path program).2 = .ok ()) :
    (tree.ensureDirectories path.parent).2 = .ok () ∧
      (tree.ensureDirectories path.parent).1.writeFile path (dump program) =
        .ok (save tree path program).1 := by
  rcases prepares : tree.ensureDirectories path.parent with ⟨prepared, _ | ⟨⟩⟩
  · simp [save, prepares] at saves
  · cases written : prepared.writeFile path (dump program) with
    | error error => simp [save, prepares, written] at saves
    | ok changed => simp [save, prepares, written]

/-- A snapshot that was saved is there to be read, and no directory is lost. -/
theorem readFile_of_save {tree : FileTree} {path : Path} {program : Program}
    (saves : (save tree path program).2 = .ok ()) :
    tree.KeepsDirectories (save tree path program).1 ∧
      (save tree path program).1.readFile path = .ok (dump program) := by
  obtain ⟨-, written⟩ := of_save_eq_ok saves
  obtain ⟨keeps, stored⟩ := FileTree.readFile_of_writeFile written
  have prepares := FileTree.ensures_ensureDirectories tree path.parent
  exact ⟨prepares.1.trans keeps, stored⟩

/-- Saving writes the file that the path leads to and no other. -/
theorem writes_of_save {tree : FileTree} {path : Path} {program : Program}
    (saves : (save tree path program).2 = .ok ()) :
    ∃ location, (save tree path program).1.locate path = .ok location ∧
      tree.Writes location (dump program) (save tree path program).1 := by
  obtain ⟨-, written⟩ := of_save_eq_ok saves
  obtain ⟨location, located, writes⟩ := FileTree.writes_of_writeFile written
  have prepares := tree.sameFiles_ensureDirectories path.parent
  exact ⟨location, located, prepares.writes writes⟩

/-- Saving that fails changes no file; without an obstacle, the path holds a null byte. -/
theorem sameFiles_of_save_error {tree : FileTree} {path : Path} {program : Program}
    {error : FileError} (failed : (save tree path program).2 = .error error) :
    tree.SameFiles (save tree path program).1 ∧
      (error = .nullByte → path.holdsNull = true) := by
  have prepares := tree.sameFiles_ensureDirectories path.parent
  rcases ensured : tree.ensureDirectories path.parent with ⟨prepared, problem | ⟨⟩⟩
  · rw [ensured] at prepares
    simp only [save, ensured] at failed ⊢
    cases failed
    refine ⟨prepares, ?_⟩
    rintro rfl
    exact FileTree.holdsNull_of_parent (FileTree.holdsNull_of_ensureDirectories (by rw [ensured]))
  · rw [ensured] at prepares
    cases written : prepared.writeFile path (dump program) with
    | error problem =>
        simp only [save, ensured, written] at failed ⊢
        cases failed
        refine ⟨prepares, ?_⟩
        rintro rfl
        exact FileTree.holdsNull_of_writeFile written
    | ok changed => simp [save, ensured, written] at failed

/-! ## Reading -/

/-- A snapshot is refused for its envelope or its format, or its program is read. -/
theorem ofEnvelope_cases (document : Document) :
    ofEnvelope document = .error .envelope ∨
      (∃ found, ofEnvelope document = .error (.format found)) ∨
      ∃ inner, ofEnvelope document = (Program.ofDocument inner).mapError ReadError.program := by
  cases document with
  | map entries =>
      simp only [ofEnvelope]
      cases Entries.find? (Label.text "program") entries with
      | none => exact .inl rfl
      | some inner =>
          simp only
          split
          · exact .inr (.inr ⟨inner, rfl⟩)
          · exact .inr (.inl ⟨_, rfl⟩)
  | _ => exact .inl rfl

theorem wellFormed_of_read {tree : FileTree} {path : Path} {program : Program}
    (reads : read tree path = .ok program) :
    program.WellFormed := by
  obtain ⟨bytes, -, loads⟩ := exists_of_bind_eq_ok reads
  obtain ⟨document, -, opens⟩ := exists_of_bind_eq_ok loads
  rcases ofEnvelope_cases document with closed | ⟨found, unsupported⟩ | ⟨inner, opened⟩
  · rw [closed] at opens
    cases opens
  · rw [unsupported] at opens
    cases opens
  · rw [opened, mapError_eq_ok_iff] at opens
    exact Program.wellFormed_of_ofDocument opens

theorem load_ne_nullByte (bytes : List UInt8) : load bytes ≠ .error .nullByte := by
  intro failed
  rw [load, bind_eq_error_iff] at failed
  rcases failed with undecoded | ⟨document, -, unopened⟩
  · obtain ⟨fault, -, same⟩ := mapError_eq_error_iff.mp undecoded
    cases same
  · rcases ofEnvelope_cases document with closed | ⟨found, unsupported⟩ | ⟨inner, opened⟩
    · rw [closed] at unopened
      cases unopened
    · rw [unsupported] at unopened
      cases unopened
    · rw [opened, mapError_eq_error_iff] at unopened
      obtain ⟨problem, -, same⟩ := unopened
      cases same

/-- Reading does not reach the operating system only if the path holds a null byte. -/
theorem holdsNull_of_read {tree : FileTree} {path : Path}
    (failed : read tree path = .error .nullByte) :
    path.holdsNull = true := by
  rw [read, bind_eq_error_iff] at failed
  rcases failed with unread | ⟨bytes, -, unloaded⟩
  · obtain ⟨error, unread, same⟩ := mapError_eq_error_iff.mp unread
    cases error with
    | met obstacle place => cases same
    | nullByte => exact FileTree.holdsNull_of_readFile unread
  · exact absurd unloaded (load_ne_nullByte bytes)

/-- The program that was saved is read back, as long as the format can hold it. -/
theorem read_of_save {tree : FileTree} {path : Path} {program : Program}
    (wellFormed : program.WellFormed)
    (short : MessagePack.longest (envelope program) < 2 ^ 32)
    (shallow : MessagePack.depth (envelope program) ≤ 1024)
    (saves : (save tree path program).2 = .ok ()) :
    read (save tree path program).1 path = .ok program := by
  rw [read_of_readFile (readFile_of_save saves).2]
  exact load_dump_of_wellFormed wellFormed short shallow

end FuncAdapter.Snapshot
