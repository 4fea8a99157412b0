import FuncAdapter.Proofs.MessagePack.RoundTrip
import Mathlib.Tactic.SplitIfs

/-!
# Values that end where they end

The bytes of a value say themselves where the value ends.  Whatever a reader makes of some bytes, it
makes of them also when more bytes follow, and it leaves these alone; the same holds when the limits
on lengths and nesting are raised.

Two inputs of which one continues the other can therefore not both be a whole document.  In
particular nothing but the bytes of a document itself can be decoded among their beginnings and
their continuations.  The limits of the reader do not matter for this, although they depend on the
size of the input: compared with the limits that fit the document, they can only refuse more.
-/

namespace FuncAdapter.MessagePack

/-- What the first reader reads, the second one reads too, and it leaves any further bytes. -/
def Continues {value : Type} (first second : Reader value) : Prop :=
  ∀ ⦃bytes : List UInt8⦄ ⦃result : value⦄ ⦃rest : List UInt8⦄,
    first bytes = .ok (result, rest) →
      ∀ more, second (bytes ++ more) = .ok (result, rest ++ more)

namespace Continues

theorem ok {value : Type} (result : value) :
    Continues (fun bytes => .ok (result, bytes)) (fun bytes => .ok (result, bytes)) := by
  intro bytes found rest succeeds more
  cases succeeds
  rfl

theorem error {value : Type} (fault : Fault) (second : Reader value) :
    Continues (fun _ => .error fault) second :=
  fun _ _ _ succeeds => nomatch succeeds

/-- Readers that run one after another continue if each of them does. -/
theorem bind {first second : Type} {start start' : Reader first}
    {next next' : first × List UInt8 → Except Fault (second × List UInt8)}
    (begins : Continues start start')
    (goesOn :
      ∀ value,
        Continues (fun rest => next (value, rest)) (fun rest => next' (value, rest))) :
    Continues (fun bytes => start bytes >>= next) (fun bytes => start' bytes >>= next') := by
  intro bytes result rest succeeds more
  change start bytes >>= next = _ at succeeds
  change start' (bytes ++ more) >>= next' = _
  cases read : start bytes with
  | error fault =>
      rw [read] at succeeds
      exact nomatch succeeds
  | ok pair =>
      obtain ⟨value, middle⟩ := pair
      rw [read] at succeeds
      rw [begins read more]
      exact goesOn value succeeds more

end Continues

/-! ## Values without parts -/

theorem continues_readBytes (count : Nat) :
    Continues (readBytes count) (readBytes count) := by
  intro bytes result rest succeeds more
  rw [readBytes] at succeeds
  split at succeeds
  · next enough =>
      cases succeeds
      have inside : count ≤ bytes.length := by
        rw [List.length_take] at enough
        omega
      rw [readBytes, List.take_append_of_le_length inside, if_pos enough,
        List.drop_append_of_le_length inside]
  · cases succeeds

theorem continues_readNumber (width : Nat) :
    Continues (readNumber width) (readNumber width) :=
  .bind (continues_readBytes width) fun front => .ok (ofBigEndian front)

theorem continues_readUnsigned (width : Nat) :
    Continues (readUnsigned width) (readUnsigned width) :=
  .bind (continues_readNumber width) fun number => .ok (Document.integer number)

theorem continues_readSigned (width : Nat) :
    Continues (readSigned width) (readSigned width) :=
  .bind (continues_readBytes width) fun front => .ok (Document.integer (ofTwosComplement front))

theorem continues_readSingle : Continues readSingle readSingle :=
  .bind (continues_readNumber 4) fun number =>
    .ok (Document.real (Number.widen (UInt32.ofNat number)))

theorem continues_readDouble : Continues readDouble readDouble :=
  .bind (continues_readNumber 8) fun number => .ok (Document.real (UInt64.ofNat number))

theorem continues_readBinary (length : Nat) :
    Continues (readBinary length) (readBinary length) :=
  .bind (continues_readBytes length) fun front => .ok (Document.bytes front)

theorem continues_readText (length : Nat) :
    Continues (readText length) (readText length) := by
  refine .bind (continues_readBytes length) fun front => ?_
  dsimp only
  cases Text.Utf8.decode front with
  | ok text => exact .ok (Document.text text)
  | error fault => exact .error (.text fault) _

theorem continues_readExtension (length : Nat) :
    Continues (readExtension length) (readExtension length) := by
  refine .bind (continues_readBytes (length + 1)) fun front => ?_
  cases front with
  | nil => exact .error .incomplete _
  | cons code payload =>
      dsimp only
      cases extensionOf code payload with
      | ok document => exact .ok document
      | error fault => exact .error fault _

/-- A value continues after its length if it does for every length. -/
theorem continues_readSized {width : Nat} {read read' : Nat → Reader Document}
    (each : ∀ length, Continues (read length) (read' length)) :
    Continues (readSized width read) (readSized width read') :=
  .bind (continues_readNumber width) each

/-! ## Lists and maps -/

variable {total total' : Nat} {inner inner' : Option (Reader Document)}

/-- Every reader for what a container holds is continued by another one. -/
def InnerContinues (inner inner' : Option (Reader Document)) : Prop :=
  ∀ read ∈ inner, ∃ read' ∈ inner', Continues read read'

theorem continues_readItems {read read' : Reader Document} (each : Continues read read')
    (count : Nat) :
    Continues (readItems read count) (readItems read' count) := by
  induction count with
  | zero => exact .ok []
  | succ count ih =>
      exact .bind each fun item => .bind ih fun items => .ok (item :: items)

theorem continues_readEntries {read read' : Reader Document} (each : Continues read read')
    (count : Nat) (entries : List (Label × Document)) :
    Continues (readEntries read count entries) (readEntries read' count entries) := by
  induction count generalizing entries with
  | zero => exact .ok entries
  | succ count ih =>
      refine .bind each fun key => .bind each fun item => ?_
      dsimp only
      cases labelOf key with
      | ok label => exact ih (Entries.store label item entries)
      | error fault => exact .error fault _

theorem continues_readList (room : total ≤ total') (deeper : InnerContinues inner inner')
    (length : Nat) :
    Continues (readList total inner length) (readList total' inner' length) := by
  cases inner with
  | none => exact .error .tooDeep _
  | some read =>
      obtain ⟨read', rfl, each⟩ := deeper read rfl
      by_cases tooLong : total < length
      · unfold readList
        simp only [if_pos tooLong]
        exact .error (.listTooLong length total) _
      · have fits : ¬ total' < length := by omega
        unfold readList
        simp only [if_neg tooLong, if_neg fits]
        exact .bind (continues_readItems each length) fun items => .ok (Document.list items)

theorem continues_readMap (room : total ≤ total') (deeper : InnerContinues inner inner')
    (length : Nat) :
    Continues (readMap total inner length) (readMap total' inner' length) := by
  cases inner with
  | none => exact .error .tooDeep _
  | some read =>
      obtain ⟨read', rfl, each⟩ := deeper read rfl
      by_cases tooLong : total / 2 < length
      · unfold readMap
        simp only [if_pos tooLong]
        exact .error (.mapTooLong length (total / 2)) _
      · have fits : ¬ total' / 2 < length := by omega
        unfold readMap
        simp only [if_neg tooLong, if_neg fits]
        exact .bind (continues_readEntries each length []) fun entries => .ok (Document.map entries)

/-! ## Documents -/

theorem continues_readTagged (room : total ≤ total') (deeper : InnerContinues inner inner')
    (code : Nat) :
    Continues (readTagged total inner code) (readTagged total' inner' code) := by
  intro bytes result rest succeeds more
  unfold readTagged at succeeds ⊢
  -- The cases are the codes from `0xc0` on, without the one that no value starts with.
  split at succeeds
  case h_1 | h_2 | h_3 =>
      cases succeeds
      rfl
  case h_4 | h_5 | h_6 => exact continues_readSized continues_readBinary succeeds more
  case h_7 | h_8 | h_9 => exact continues_readSized continues_readExtension succeeds more
  case h_10 => exact continues_readSingle succeeds more
  case h_11 => exact continues_readDouble succeeds more
  case h_12 | h_13 | h_14 | h_15 => exact continues_readUnsigned _ succeeds more
  case h_16 | h_17 | h_18 | h_19 => exact continues_readSigned _ succeeds more
  case h_20 | h_21 | h_22 | h_23 | h_24 => exact continues_readExtension _ succeeds more
  case h_25 | h_26 | h_27 => exact continues_readSized continues_readText succeeds more
  case h_28 | h_29 =>
      exact continues_readSized (continues_readList room deeper) succeeds more
  case h_30 | h_31 =>
      exact continues_readSized (continues_readMap room deeper) succeeds more
  case h_32 => exact nomatch succeeds

theorem continues_readValue (room : total ≤ total') (deeper : InnerContinues inner inner') :
    Continues (readValue total inner) (readValue total' inner') := by
  intro bytes result rest succeeds more
  cases bytes with
  | nil => exact nomatch succeeds
  | cons head tail =>
      rw [List.cons_append]
      simp only [readValue] at succeeds ⊢
      split_ifs at succeeds ⊢
      · cases succeeds
        rfl
      · exact continues_readMap room deeper _ succeeds more
      · exact continues_readList room deeper _ succeeds more
      · exact continues_readText _ succeeds more
      · exact continues_readTagged room deeper _ succeeds more
      · cases succeeds
        rfl

/-- A reader with higher limits reads the same value from the beginning of a longer input. -/
theorem continues_read {levels levels' : Nat} (room : total ≤ total') (deep : levels ≤ levels') :
    Continues (read total levels) (read total' levels') := by
  induction levels generalizing levels' with
  | zero =>
      obtain ⟨inner', isReader⟩ := exists_read_eq_readValue total' levels'
      rw [isReader]
      exact continues_readValue room fun _ absent => nomatch absent
  | succ levels ih =>
      cases levels' with
      | zero => omega
      | succ levels' =>
          refine continues_readValue room fun read isInner => ?_
          cases isInner
          exact ⟨_, rfl, ih (by omega)⟩

/-- Bytes are decoded if they are read as a document and none is left. -/
theorem decode_eq_ok_iff {bytes : List UInt8} {document : Document} :
    decode bytes = .ok document ↔ read bytes.length nestingLimit bytes = .ok (document, []) := by
  rw [decode]
  rcases read bytes.length nestingLimit bytes with fault | ⟨found, _ | ⟨next, rest⟩⟩
  · constructor
    · intro decoded
      cases decoded
    · intro whole
      cases whole
  · constructor
    · intro decoded
      cases decoded
      rfl
    · intro whole
      cases whole
      rfl
  · constructor
    · intro decoded
      cases decoded
    · intro whole
      cases whole

/--
Of all inputs that begin the bytes of a document or begin with them, only these bytes themselves
can be decoded.
-/
theorem eq_write_of_decode {document found : Document} {bytes more extra : List UInt8}
    (regular : Regular document) (short : longest document < 2 ^ 32)
    (comparable : bytes ++ more = write document ++ extra)
    (decoded : decode bytes = .ok found) :
    bytes = write document := by
  -- Both inputs are read again, with limits that are high enough for either.
  have written :
      read (max bytes.length (write document).length) (max nestingLimit (depth document))
        (write document ++ extra) = .ok (document, extra) :=
    reads_write regular short (Nat.le_max_right _ _) (Nat.le_max_right _ _) extra
  have continued :=
    continues_read (Nat.le_max_left _ (write document).length)
      (Nat.le_max_left _ (depth document)) (decode_eq_ok_iff.mp decoded) more
  rw [comparable, written] at continued
  obtain ⟨-, same⟩ := Prod.mk.inj (Except.ok.inj continued)
  rw [List.nil_append] at same
  subst same
  exact List.append_cancel_right comparable

end FuncAdapter.MessagePack
