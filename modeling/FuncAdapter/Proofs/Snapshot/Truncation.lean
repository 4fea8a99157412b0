import FuncAdapter.Proofs.MessagePack.Delimited
import FuncAdapter.Proofs.Snapshot.RoundTrip

/-!
# Snapshots that were cut off or continued

A snapshot file that was written only in part, or to which something was added, is refused before
anything in it is taken for a program.  This holds for programs of any depth, also for those whose
own snapshot nests too deeply to be read back.
-/

namespace FuncAdapter.Snapshot

/-- Bytes that cannot be decoded are refused for their format. -/
theorem load_of_decode_error {bytes : List UInt8} {fault : MessagePack.Fault}
    (failed : MessagePack.decode bytes = .error fault) :
    load bytes = .error (.bytes fault) := by
  rw [load, failed]
  rfl

/-- An input that begins a snapshot or begins with it is refused unless it is the snapshot. -/
theorem exists_load_eq_error {program : Program} {bytes more extra : List UInt8}
    (short : MessagePack.longest (envelope program) < 2 ^ 32)
    (comparable : bytes ++ more = dump program ++ extra) (other : bytes ≠ dump program) :
    ∃ fault, load bytes = .error (.bytes fault) := by
  cases decoded : MessagePack.decode bytes with
  | error fault => exact ⟨fault, load_of_decode_error decoded⟩
  | ok found =>
      have same : bytes = dump program :=
        MessagePack.eq_write_of_decode (regular_envelope program) short comparable decoded
      exact absurd same other

/--
Every proper beginning of the snapshot of a program is refused, and so is the snapshot with
anything behind it.
-/
theorem load_refuses_cut_or_continued (program : Program)
    (short : MessagePack.longest (envelope program) < 2 ^ 32) :
    (∀ bytes, bytes <+: dump program → bytes ≠ dump program →
      ∃ fault, load bytes = .error (.bytes fault)) ∧
    ∀ extra, extra ≠ [] → ∃ fault, load (dump program ++ extra) = .error (.bytes fault) := by
  constructor
  · rintro bytes ⟨more, whole⟩ proper
    have comparable : bytes ++ more = dump program ++ [] := by rw [whole, List.append_nil]
    exact exists_load_eq_error short comparable proper
  · intro extra something
    have comparable : dump program ++ extra ++ [] = dump program ++ extra := List.append_nil _
    have longer : dump program ++ extra ≠ dump program := by
      intro same
      exact something (List.append_right_eq_self.mp same)
    exact exists_load_eq_error short comparable longer

/-- The snapshot of a program with nested types, cut inside a name and with one byte behind it. -/
theorem load_refuses_cut_or_continued_recorder :
    MessagePack.longest (envelope recorderProgram) < 2 ^ 32 ∧
      (dump recorderProgram).take 43 ≠ dump recorderProgram ∧
      (∃ fault, load ((dump recorderProgram).take 43) = .error (.bytes fault)) ∧
      ∃ fault, load (dump recorderProgram ++ [0xc0]) = .error (.bytes fault) := by
  have short : MessagePack.longest (envelope recorderProgram) < 2 ^ 32 := by decide +kernel
  have proper : (dump recorderProgram).take 43 ≠ dump recorderProgram := by decide +kernel
  have refused := load_refuses_cut_or_continued recorderProgram short
  exact ⟨short, proper, refused.1 _ (List.take_prefix _ _) proper, refused.2 _ (by decide)⟩

end FuncAdapter.Snapshot
