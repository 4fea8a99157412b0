import FuncAdapter.MessagePack.Reader
import FuncAdapter.MessagePack.Writer
import FuncAdapter.Proofs.Text.Utf8
import Mathlib.Tactic.Ring

/-!
# Reading documents back from MessagePack

What is written for a document is read as the same document.  The document has to be one that the
format can hold, which is what `Regular` says; its texts, lists and maps have to be short enough for
a header, and its containers must not nest deeper than the reader allows.

The lengths that the reader allows depend on the size of the whole input.  A document that was
written never reaches them, because every item takes at least one byte and every entry at least two.
-/

namespace FuncAdapter.MessagePack

/-- A reader reads some bytes as a value, whatever follows them. -/
def Reads {value : Type} (read : Reader value) (bytes : List UInt8) (result : value) : Prop :=
  ∀ rest, read (bytes ++ rest) = .ok (result, rest)

variable {total : Nat} {inner : Option (Reader Document)}

/-! ## Numbers of a fixed width -/

theorem foldl_bigEndian (width number start : Nat) :
    (bigEndian width number).foldl (fun number byte => number * 256 + byte.toNat) start =
      start * capacity width + number % capacity width := by
  induction width generalizing start with
  | zero => simp [bigEndian, capacity, Nat.mod_one]
  | succ width ih =>
      have byte : (UInt8.ofNat (number / capacity width)).toNat = number / capacity width % 256 :=
        UInt8.toNat_ofNat'
      have split : number % (capacity width * 256) =
          number % capacity width + capacity width * (number / capacity width % 256) :=
        Nat.mod_mul
      rw [bigEndian, List.foldl_cons, ih, byte, capacity, split]
      ring

/-- A number that fits into some bytes is read back from them. -/
theorem ofBigEndian_bigEndian {width number : Nat} (fits : number < capacity width) :
    ofBigEndian (bigEndian width number) = number := by
  rw [ofBigEndian, foldl_bigEndian, Nat.mod_eq_of_lt fits]
  omega

theorem capacity_pos (width : Nat) : 0 < capacity width := by
  induction width with
  | zero => exact Nat.one_pos
  | succ width ih => exact Nat.mul_pos ih (by decide)

/-- An integer that fits into some bytes in two's complement is read back from them. -/
theorem ofTwosComplement_twosComplement {width : Nat} {value : Int}
    (least : -capacity width ≤ 2 * value) (greatest : 2 * value < capacity width) :
    ofTwosComplement (twosComplement width value) = value := by
  have positive := capacity_pos width
  have below := Int.emod_lt_of_pos value (show (0 : Int) < capacity width by omega)
  have fits : (value % capacity width).toNat < capacity width := by omega
  rw [ofTwosComplement, length_twosComplement, twosComplement, ofBigEndian_bigEndian fits]
  by_cases negative : value < 0
  · have wrapped : value % capacity width = value + capacity width := by
      rw [← Int.add_emod_right]
      exact Int.emod_eq_of_lt (by omega) (by omega)
    rw [if_neg (by omega)]
    omega
  · have same : value % capacity width = value := Int.emod_eq_of_lt (by omega) (by omega)
    rw [if_pos (by omega)]
    omega

theorem reads_readBytes (bytes : List UInt8) : Reads (readBytes bytes.length) bytes bytes := by
  intro rest
  simp [readBytes]

theorem reads_readNumber {width number : Nat} (fits : number < capacity width) :
    Reads (readNumber width) (bigEndian width number) number := by
  intro rest
  have front := reads_readBytes (bigEndian width number) rest
  rw [length_bigEndian] at front
  rw [readNumber, front]
  simp only [bind, Except.bind, pure, Except.pure, ofBigEndian_bigEndian fits]

/-- The length in front of a value selects the reader for the value. -/
theorem readSized_bigEndian {width length : Nat} (fits : length < capacity width)
    (read : Nat → Reader Document) (rest : List UInt8) :
    readSized width read (bigEndian width length ++ rest) = read length rest := by
  rw [readSized, reads_readNumber fits]
  rfl

theorem reads_readUnsigned {width number : Nat} (fits : number < capacity width) :
    Reads (readUnsigned width) (bigEndian width number) (.integer number) := by
  intro rest
  rw [readUnsigned, reads_readNumber fits]
  rfl

theorem reads_readSigned {width : Nat} {value : Int}
    (least : -capacity width ≤ 2 * value) (greatest : 2 * value < capacity width) :
    Reads (readSigned width) (twosComplement width value) (.integer value) := by
  intro rest
  have front := reads_readBytes (twosComplement width value) rest
  rw [length_twosComplement] at front
  rw [readSigned, front]
  simp only [bind, Except.bind, pure, Except.pure, ofTwosComplement_twosComplement least greatest]

/-! ## Headers -/

/-- A header of one byte for a text, list or map gives the length in its low bits. -/
theorem readValue_fixed {base length : Nat} (small : base + length < 0x100)
    (rest : List UInt8) :
    readValue total inner (UInt8.ofNat (base + length) :: rest) =
      if base + length < 0x80 then .ok (.integer (base + length : Nat), rest)
      else if base + length < 0x90 then readMap total inner (base + length - 0x80) rest
      else if base + length < 0xa0 then readList total inner (base + length - 0x90) rest
      else if base + length < 0xc0 then readText (base + length - 0xa0) rest
      else if base + length < 0xe0 then readTagged total inner (base + length) rest
      else .ok (.integer ((base + length : Nat) - 0x100), rest) := by
  rw [readValue]
  simp only [Text.Utf8.toNat_byte small]

/-- A text is read after its header. -/
theorem readValue_textHeader {length : Nat} (fits : length < 2 ^ 32) (rest : List UInt8) :
    readValue total inner (textHeader length ++ rest) = readText length rest := by
  rw [textHeader]
  split
  · rw [List.singleton_append, readValue_fixed (by omega), if_neg (by omega), if_neg (by omega),
      if_neg (by omega), if_pos (by omega), Nat.add_sub_cancel_left]
  · split
    · next one => exact readSized_bigEndian one readText rest
    · split
      · next two => exact readSized_bigEndian two readText rest
      · exact readSized_bigEndian fits readText rest

/-- Bytes are read after their header. -/
theorem readValue_bytesHeader {length : Nat} (fits : length < 2 ^ 32) (rest : List UInt8) :
    readValue total inner (bytesHeader length ++ rest) = readBinary length rest := by
  rw [bytesHeader]
  split
  · next one => exact readSized_bigEndian one readBinary rest
  · split
    · next two => exact readSized_bigEndian two readBinary rest
    · exact readSized_bigEndian fits readBinary rest

/-- The items of a list are read after its header. -/
theorem readValue_listHeader {length : Nat} (fits : length < 2 ^ 32) (rest : List UInt8) :
    readValue total inner (listHeader length ++ rest) = readList total inner length rest := by
  rw [listHeader]
  split
  · rw [List.singleton_append, readValue_fixed (by omega), if_neg (by omega), if_neg (by omega),
      if_pos (by omega), Nat.add_sub_cancel_left]
  · split
    · next two => exact readSized_bigEndian two (readList total inner) rest
    · exact readSized_bigEndian fits (readList total inner) rest

/-- The entries of a map are read after its header. -/
theorem readValue_mapHeader {length : Nat} (fits : length < 2 ^ 32) (rest : List UInt8) :
    readValue total inner (mapHeader length ++ rest) = readMap total inner length rest := by
  rw [mapHeader]
  split
  · rw [List.singleton_append, readValue_fixed (by omega), if_neg (by omega), if_pos (by omega),
      Nat.add_sub_cancel_left]
  · split
    · next two => exact readSized_bigEndian two (readMap total inner) rest
    · exact readSized_bigEndian fits (readMap total inner) rest

/-- The code and the payload of an extension are read after its header. -/
theorem readValue_extensionHeader {length : Nat} (fits : length < 2 ^ 32) (rest : List UInt8) :
    readValue total inner (extensionHeader length ++ rest) = readExtension length rest := by
  rw [extensionHeader]
  split
  · next same => exact same ▸ rfl
  · split
    · next same => exact same ▸ rfl
    · split
      · next same => exact same ▸ rfl
      · split
        · next same => exact same ▸ rfl
        · split
          · next same => exact same ▸ rfl
          · split
            · next one => exact readSized_bigEndian one readExtension rest
            · split
              · next two => exact readSized_bigEndian two readExtension rest
              · exact readSized_bigEndian fits readExtension rest

/-! ## Values without parts -/

theorem reads_readUnsigned_of_nonneg {width : Nat} {value : Int}
    (nonneg : 0 ≤ value) (fits : value < capacity width) :
    Reads (readUnsigned width) (twosComplement width value) (.integer value) := by
  have small : value.toNat < capacity width := by omega
  rw [twosComplement, Int.emod_eq_of_lt nonneg fits]
  simpa [Int.toNat_of_nonneg nonneg] using reads_readUnsigned small

theorem reads_small_integer {value : Int} (least : -0x20 ≤ value) (greatest : value < 0x80) :
    Reads (readValue total inner) (twosComplement 1 value) (.integer value) := by
  intro rest
  have single : twosComplement 1 value = [UInt8.ofNat (value % 256).toNat] := by
    simp [twosComplement, bigEndian, capacity]
  have byte := Text.Utf8.toNat_byte (show (value % 256).toNat < 0x100 by omega)
  rw [single, List.singleton_append, readValue]
  simp only [byte]
  by_cases negative : value < 0
  · have back : ((value % 256).toNat : Int) - 0x100 = value := by omega
    rw [if_neg (by omega), if_neg (by omega), if_neg (by omega), if_neg (by omega),
      if_neg (by omega), back]
  · have back : ((value % 256).toNat : Int) = value := by omega
    rw [if_pos (by omega), back]

theorem reads_writeInteger {value : Int} (least : -2 ^ 63 ≤ value) (greatest : value < 2 ^ 64) :
    Reads (readValue total inner) (writeInteger value) (.integer value) := by
  have one : capacity 1 = 0x100 := rfl
  have two : capacity 2 = 0x10000 := rfl
  have four : capacity 4 = 0x100000000 := rfl
  have eight : capacity 8 = 0x10000000000000000 := rfl
  unfold writeInteger
  split
  · next nonneg =>
      split
      · exact reads_small_integer (by omega) (by omega)
      · split
        · exact reads_readUnsigned_of_nonneg nonneg (by omega)
        · split
          · exact reads_readUnsigned_of_nonneg nonneg (by omega)
          · split
            · exact reads_readUnsigned_of_nonneg nonneg (by omega)
            · exact reads_readUnsigned_of_nonneg nonneg (by omega)
  · split
    · exact reads_small_integer (by omega) (by omega)
    · split
      · exact reads_readSigned (by omega) (by omega)
      · split
        · exact reads_readSigned (by omega) (by omega)
        · split
          · exact reads_readSigned (by omega) (by omega)
          · exact reads_readSigned (by omega) (by omega)

theorem reads_writeText {text : String} (short : (Text.Utf8.encode text).length < 2 ^ 32) :
    Reads (readValue total inner) (writeText text) (.text text) := by
  intro rest
  rw [writeText, List.append_assoc, readValue_textHeader short, readText,
    reads_readBytes (Text.Utf8.encode text) rest]
  simp only [bind, Except.bind, Text.Utf8.decode_encode, pure, Except.pure]

theorem reads_writeBytes {bytes : List UInt8} (short : bytes.length < 2 ^ 32) :
    Reads (readValue total inner) (writeBytes bytes) (.bytes bytes) := by
  intro rest
  rw [writeBytes, List.append_assoc, readValue_bytesHeader short, readBinary,
    reads_readBytes bytes rest]
  rfl

theorem reads_readExtension {code : UInt8} {payload : List UInt8} {document : Document}
    (stands : extensionOf code payload = .ok document) :
    Reads (readExtension payload.length) (code :: payload) document := by
  intro rest
  have front := reads_readBytes (code :: payload) rest
  rw [List.length_cons] at front
  rw [readExtension, front]
  simp only [bind, Except.bind, stands, pure, Except.pure]

/-- The longest form of a timestamp is read as the timestamp. -/
theorem extensionOf_timestampPayload {seconds : Int} {nanoseconds : Nat}
    (least : -2 ^ 63 ≤ seconds) (greatest : seconds < 2 ^ 63)
    (fraction : nanoseconds ≤ 999999999) :
    extensionOf 0xff (timestampPayload seconds nanoseconds) =
      .ok (.timestamp seconds nanoseconds) := by
  have size : (timestampPayload seconds nanoseconds).length = 12 := by
    simp [timestampPayload]
  have front : (timestampPayload seconds nanoseconds).take 4 = bigEndian 4 nanoseconds :=
    List.take_left' (length_bigEndian 4 nanoseconds)
  have back :
      (timestampPayload seconds nanoseconds).drop 4 = twosComplement 8 seconds :=
    List.drop_left' (length_bigEndian 4 nanoseconds)
  have four : capacity 4 = 0x100000000 := rfl
  have eight : capacity 8 = 0x10000000000000000 := rfl
  have readNanoseconds : ofBigEndian (bigEndian 4 nanoseconds) = nanoseconds :=
    ofBigEndian_bigEndian (by omega)
  have readSeconds : ofTwosComplement (twosComplement 8 seconds) = seconds :=
    ofTwosComplement_twosComplement (by omega) (by omega)
  rw [extensionOf, if_pos rfl, timestampOf]
  simp only [size, front, back, readNanoseconds, readSeconds, timestamp, if_pos fraction]

/-! ## Documents that the format can hold -/

/-- The values of a document are in the ranges of the format, and the labels of a map differ. -/
inductive Regular : Document → Prop where
  | null : Regular .null
  | boolean {value : Bool} : Regular (.boolean value)
  | integer {value : Int} (least : -2 ^ 63 ≤ value) (greatest : value < 2 ^ 64) :
      Regular (.integer value)
  | real {bits : UInt64} : Regular (.real bits)
  | text {value : String} : Regular (.text value)
  | bytes {value : List UInt8} : Regular (.bytes value)
  | extension {code : Nat} {payload : List UInt8} (unreserved : code < 0x80) :
      Regular (.extension code payload)
  | timestamp {seconds : Int} {nanoseconds : Nat}
      (least : -2 ^ 63 ≤ seconds) (greatest : seconds < 2 ^ 63)
      (fraction : nanoseconds ≤ 999999999) :
      Regular (.timestamp seconds nanoseconds)
  | list {items : List Document} (each : ∀ item ∈ items, Regular item) :
      Regular (.list items)
  | map {entries : List (Label × Document)}
      (distinct : (Entries.labels entries).Nodup)
      (each : ∀ entry ∈ entries, Regular entry.2) :
      Regular (.map entries)

/-- The number of bytes of a label. -/
def labelSize : Label → Nat
  | .text text => (Text.Utf8.encode text).length
  | .bytes bytes => bytes.length

mutual

/-- The greatest length of a text, byte string, list or map in a document. -/
def longest : Document → Nat
  | .text text => (Text.Utf8.encode text).length
  | .bytes bytes => bytes.length
  | .extension _ payload => payload.length
  | .list items => max items.length (longestItem items)
  | .map entries => max entries.length (longestEntry entries)
  | _ => 0

/-- The greatest length of a text, byte string, list or map in the items of a list. -/
def longestItem : List Document → Nat
  | [] => 0
  | item :: items => max (longest item) (longestItem items)

/-- The greatest length of a text, byte string, list or map in the entries of a map. -/
def longestEntry : List (Label × Document) → Nat
  | [] => 0
  | (label, item) :: entries =>
      max (labelSize label) (max (longest item) (longestEntry entries))

end

mutual

/-- How many lists and maps of a document lie inside each other. -/
def depth : Document → Nat
  | .list items => itemsDepth items + 1
  | .map entries => entriesDepth entries + 1
  | _ => 0

/-- The greatest depth of the items of a list. -/
def itemsDepth : List Document → Nat
  | [] => 0
  | item :: items => max (depth item) (itemsDepth items)

/-- The greatest depth of the entries of a map. -/
def entriesDepth : List (Label × Document) → Nat
  | [] => 0
  | (_, item) :: entries => max (depth item) (entriesDepth entries)

end

theorem longest_le_longestItem {item : Document} {items : List Document} (member : item ∈ items) :
    longest item ≤ longestItem items := by
  induction items with
  | nil => simp at member
  | cons first items ih =>
      rw [longestItem]
      rcases List.mem_cons.mp member with rfl | later
      · exact Nat.le_max_left _ _
      · exact (ih later).trans (Nat.le_max_right _ _)

theorem depth_le_itemsDepth {item : Document} {items : List Document} (member : item ∈ items) :
    depth item ≤ itemsDepth items := by
  induction items with
  | nil => simp at member
  | cons first items ih =>
      rw [itemsDepth]
      rcases List.mem_cons.mp member with rfl | later
      · exact Nat.le_max_left _ _
      · exact (ih later).trans (Nat.le_max_right _ _)

theorem le_longestEntry {entry : Label × Document} {entries : List (Label × Document)}
    (member : entry ∈ entries) :
    labelSize entry.1 ≤ longestEntry entries ∧ longest entry.2 ≤ longestEntry entries := by
  induction entries with
  | nil => simp at member
  | cons first entries ih =>
      obtain ⟨label, item⟩ := first
      rw [longestEntry]
      rcases List.mem_cons.mp member with rfl | later
      · exact ⟨Nat.le_max_left _ _, (Nat.le_max_left _ _).trans (Nat.le_max_right _ _)⟩
      · have inside := ih later
        constructor <;> omega

theorem depth_le_entriesDepth {entry : Label × Document} {entries : List (Label × Document)}
    (member : entry ∈ entries) :
    depth entry.2 ≤ entriesDepth entries := by
  induction entries with
  | nil => simp at member
  | cons first entries ih =>
      obtain ⟨label, item⟩ := first
      rw [entriesDepth]
      rcases List.mem_cons.mp member with rfl | later
      · exact Nat.le_max_left _ _
      · exact (ih later).trans (Nat.le_max_right _ _)

/-- A value without parts is read back at any level. -/
theorem reads_write_of_depth_zero {document : Document}
    (regular : Regular document) (short : longest document < 2 ^ 32)
    (flat : depth document = 0) :
    Reads (readValue total inner) (write document) document := by
  cases regular with
  | null => exact fun rest => rfl
  | boolean =>
      rename_i value
      cases value
      · exact fun rest => rfl
      · exact fun rest => rfl
  | integer least greatest => exact reads_writeInteger least greatest
  | real =>
      rename_i bits
      intro rest
      have whole := reads_readNumber (show bits.toNat < capacity 8 from bits.toNat_lt) rest
      rw [write, List.cons_append]
      change readDouble (bigEndian 8 bits.toNat ++ rest) = _
      rw [readDouble, whole]
      simp only [bind, Except.bind, pure, Except.pure, UInt64.ofNat_toNat]
  | text => exact reads_writeText short
  | bytes => exact reads_writeBytes short
  | extension unreserved =>
      rename_i code payload
      intro rest
      have byte := Text.Utf8.toNat_byte (show code < 0x100 by omega)
      have stands :
          extensionOf (UInt8.ofNat code) payload = .ok (.extension code payload) := by
        have notTimestamp : UInt8.ofNat code ≠ 0xff := by
          intro same
          have greatest : code = 0xff := byte.symm.trans (congrArg UInt8.toNat same)
          omega
        rw [extensionOf, if_neg notTimestamp, byte, if_pos unreserved]
      have small : payload.length < 2 ^ 32 := short
      rw [write, List.append_assoc, readValue_extensionHeader small]
      exact reads_readExtension stands rest
  | timestamp least greatest fraction =>
      rename_i seconds nanoseconds
      intro rest
      have stands := extensionOf_timestampPayload least greatest fraction
      have size : (timestampPayload seconds nanoseconds).length = 12 := by
        simp [timestampPayload]
      have whole := reads_readExtension stands rest
      rw [size] at whole
      rw [write, List.append_assoc, readValue_extensionHeader (by decide)]
      exact whole
  | list each => simp [depth] at flat
  | map distinct each => simp [depth] at flat

/-! ## Sizes -/

theorem exists_read_eq_readValue (total levels : Nat) :
    ∃ inner, read total levels = readValue total inner := by
  cases levels with
  | zero => exact ⟨none, rfl⟩
  | succ levels => exact ⟨some (read total levels), rfl⟩

/-- Nothing is read from no bytes. -/
theorem Reads.length_pos {levels : Nat} {bytes : List UInt8} {document : Document}
    (reads : Reads (read total levels) bytes document) :
    0 < bytes.length := by
  obtain ⟨inner, isReader⟩ := exists_read_eq_readValue total levels
  cases bytes with
  | nil =>
      have failed := reads []
      rw [isReader] at failed
      exact nomatch failed
  | cons byte bytes => exact Nat.succ_pos _

/-- A list has at most as many items as bytes, if every item takes a byte. -/
theorem length_le_length_writeItems {items : List Document}
    (each : ∀ item ∈ items, 0 < (write item).length) :
    items.length ≤ (writeItems items).length := by
  induction items with
  | nil => simp
  | cons item items ih =>
      have first := each item List.mem_cons_self
      have later := ih fun item member => each item (List.mem_cons_of_mem _ member)
      rw [writeItems, List.length_append, List.length_cons]
      omega

/-- A map has at most half as many entries as bytes, if every label and value takes a byte. -/
theorem two_mul_length_le_length_writeEntries {entries : List (Label × Document)}
    (keys : ∀ entry ∈ entries, 0 < (writeLabel entry.1).length)
    (each : ∀ entry ∈ entries, 0 < (write entry.2).length) :
    2 * entries.length ≤ (writeEntries entries).length := by
  induction entries with
  | nil => simp
  | cons entry entries ih =>
      have key := keys entry List.mem_cons_self
      have value := each entry List.mem_cons_self
      have later :=
        ih (fun entry member => keys entry (List.mem_cons_of_mem _ member))
          (fun entry member => each entry (List.mem_cons_of_mem _ member))
      rw [writeEntries, List.length_append, List.length_append, List.length_cons]
      omega

theorem length_write_le_length_writeItems {item : Document} {items : List Document}
    (member : item ∈ items) :
    (write item).length ≤ (writeItems items).length := by
  induction items with
  | nil => simp at member
  | cons first items ih =>
      rw [writeItems, List.length_append]
      rcases List.mem_cons.mp member with rfl | later
      · exact Nat.le_add_right _ _
      · exact (ih later).trans (Nat.le_add_left _ _)

theorem length_write_le_length_writeEntries
    {entry : Label × Document} {entries : List (Label × Document)} (member : entry ∈ entries) :
    (write entry.2).length ≤ (writeEntries entries).length := by
  induction entries with
  | nil => simp at member
  | cons first entries ih =>
      obtain ⟨label, item⟩ := first
      rw [writeEntries, List.length_append, List.length_append]
      rcases List.mem_cons.mp member with rfl | later
      · exact (Nat.le_add_right _ _).trans (Nat.le_add_left _ _)
      · exact (ih later).trans ((Nat.le_add_left _ _).trans (Nat.le_add_left _ _))

/-! ## Lists and maps -/

theorem reads_readItems {read : Reader Document} {items : List Document}
    (each : ∀ item ∈ items, Reads read (write item) item) :
    Reads (readItems read items.length) (writeItems items) items := by
  induction items with
  | nil => exact fun rest => rfl
  | cons item items ih =>
      intro rest
      have first := each item (List.mem_cons_self)
      have later := ih fun item member => each item (List.mem_cons_of_mem _ member)
      rw [writeItems, List.append_assoc, List.length_cons, readItems, first]
      simp only [bind, Except.bind, later rest, pure, Except.pure]

/-- The label of an entry is read as a text or as bytes. -/
theorem exists_reads_writeLabel {label : Label} (short : labelSize label < 2 ^ 32) :
    ∃ key, Reads (readValue total inner) (writeLabel label) key ∧ labelOf key = .ok label := by
  cases label with
  | text text => exact ⟨.text text, reads_writeText short, rfl⟩
  | bytes bytes => exact ⟨.bytes bytes, reads_writeBytes short, rfl⟩

/-- Entries with new labels are read one after another behind those already read. -/
theorem reads_readEntries {read : Reader Document} {entries : List (Label × Document)}
    (keys : ∀ entry ∈ entries,
      ∃ key, Reads read (writeLabel entry.1) key ∧ labelOf key = .ok entry.1)
    (each : ∀ entry ∈ entries, Reads read (write entry.2) entry.2)
    (before : List (Label × Document))
    (distinct : (Entries.labels (before ++ entries)).Nodup) :
    Reads (readEntries read entries.length before) (writeEntries entries)
      (before ++ entries) := by
  induction entries generalizing before with
  | nil =>
      intro rest
      rw [List.append_nil]
      rfl
  | cons entry entries ih =>
      intro rest
      obtain ⟨label, item⟩ := entry
      obtain ⟨key, readsKey, isLabel⟩ := keys (label, item) List.mem_cons_self
      have readsItem := each (label, item) List.mem_cons_self
      have absent := Entries.notMem_labels_of_nodup_append distinct
      have later :=
        ih (fun entry member => keys entry (List.mem_cons_of_mem _ member))
          (fun entry member => each entry (List.mem_cons_of_mem _ member))
          (before ++ [(label, item)]) (by rwa [List.append_assoc]) rest
      rw [writeEntries, List.append_assoc, List.append_assoc, List.length_cons, readEntries,
        readsKey]
      simp only [bind, Except.bind, readsItem (writeEntries entries ++ rest), isLabel,
        Entries.store_of_notMem absent]
      rw [later, List.append_assoc, List.singleton_append]

theorem reads_write_list {read : Reader Document} {items : List Document}
    (short : items.length < 2 ^ 32) (room : items.length ≤ total)
    (each : ∀ item ∈ items, Reads read (write item) item) :
    Reads (readValue total (some read)) (write (.list items)) (.list items) := by
  intro rest
  rw [write, List.append_assoc, readValue_listHeader short, readList]
  simp only [if_neg (Nat.not_lt.mpr room), reads_readItems each rest]
  rfl

theorem reads_write_map {read : Reader Document} {entries : List (Label × Document)}
    (short : entries.length < 2 ^ 32) (room : entries.length ≤ total / 2)
    (distinct : (Entries.labels entries).Nodup)
    (keys : ∀ entry ∈ entries,
      ∃ key, Reads read (writeLabel entry.1) key ∧ labelOf key = .ok entry.1)
    (each : ∀ entry ∈ entries, Reads read (write entry.2) entry.2) :
    Reads (readValue total (some read)) (write (.map entries)) (.map entries) := by
  intro rest
  rw [write, List.append_assoc, readValue_mapHeader short, readMap]
  simp only [if_neg (Nat.not_lt.mpr room), reads_readEntries keys each [] distinct rest]
  rfl

/--
What is written for a document is read as the document, by a reader for as many levels as the
document has and for an input at least as long as what was written.
-/
theorem reads_write {document : Document} {levels : Nat}
    (regular : Regular document) (short : longest document < 2 ^ 32)
    (shallow : depth document ≤ levels) (room : (write document).length ≤ total) :
    Reads (read total levels) (write document) document := by
  -- The reader for a level holds the reader for the next one, so the induction is on the levels.
  induction levels generalizing document with
  | zero => exact reads_write_of_depth_zero regular short (Nat.le_zero.mp shallow)
  | succ levels ih =>
      by_cases flat : depth document = 0
      · exact reads_write_of_depth_zero regular short flat
      · cases regular with
        | list each =>
            rename_i items
            rw [longest] at short
            rw [depth] at shallow
            rw [write, List.length_append] at room
            have reads : ∀ item ∈ items, Reads (read total levels) (write item) item := by
              intro item member
              have length := longest_le_longestItem member
              have nesting := depth_le_itemsDepth member
              have size := length_write_le_length_writeItems member
              exact ih (each item member) (by omega) (by omega) (by omega)
            have count :=
              length_le_length_writeItems fun item member => (reads item member).length_pos
            exact reads_write_list (by omega) (by omega) reads
        | map distinct each =>
            rename_i entries
            rw [longest] at short
            rw [depth] at shallow
            rw [write, List.length_append] at room
            have keys :
                ∀ entry ∈ entries, ∃ key,
                  Reads (read total levels) (writeLabel entry.1) key ∧
                    labelOf key = .ok entry.1 := by
              intro entry member
              have length := (le_longestEntry member).1
              obtain ⟨inner, isReader⟩ := exists_read_eq_readValue total levels
              rw [isReader]
              exact exists_reads_writeLabel (by omega)
            have reads :
                ∀ entry ∈ entries, Reads (read total levels) (write entry.2) entry.2 := by
              intro entry member
              have length := (le_longestEntry member).2
              have nesting := depth_le_entriesDepth member
              have size := length_write_le_length_writeEntries member
              exact ih (each entry member) (by omega) (by omega) (by omega)
            -- Every entry takes two bytes, so the limit on maps is not reached.
            have count :=
              two_mul_length_le_length_writeEntries
                (fun entry member => (keys entry member).choose_spec.1.length_pos)
                (fun entry member => (reads entry member).length_pos)
            exact reads_write_map (by omega) (by omega) distinct keys reads
        | _ => exact absurd rfl flat

/-- Decoding gives back a document that was written. -/
theorem decode_write {document : Document}
    (regular : Regular document) (short : longest document < 2 ^ 32)
    (shallow : depth document ≤ nestingLimit) :
    decode (write document) = .ok document := by
  have whole :
      read (write document).length nestingLimit (write document ++ []) = .ok (document, []) :=
    reads_write regular short shallow (Nat.le_refl _) []
  rw [List.append_nil] at whole
  rw [decode, whole]
  rfl

end FuncAdapter.MessagePack
