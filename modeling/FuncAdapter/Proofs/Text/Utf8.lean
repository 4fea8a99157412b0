import FuncAdapter.Text.Utf8

/-!
# Reading text back from bytes

The bytes of a text are read as the same text.  A character takes one to four bytes; the first byte
says how many follow and, together with the bound on the second one, leaves no other way to read
them.  The lemmas follow the bytes of one character through the reader.
-/

namespace FuncAdapter.Text.Utf8

variable {position : Nat} {done : List Char} {bytes : List UInt8}

/-! ## Single bytes -/

theorem toNat_byte {number : Nat} (small : number < 0x100) :
    (UInt8.ofNat number).toNat = number :=
  UInt8.toNat_ofNat_of_lt' small

/-- A first byte of a character of several bytes makes that character pending. -/
theorem decodeFrom_lead {lead : UInt8} {part : Pending}
    (high : ¬ lead.toNat < 0x80) (starts : Pending.start lead = some part) :
    decodeFrom position none done (lead :: bytes) =
      decodeFrom position (some part) done bytes := by
  rw [decodeFrom]
  simp only [if_neg high, starts]

/-- A byte inside a character adds its six bits. -/
theorem decodeFrom_inner {part : Pending} {byte : UInt8} {remaining : Nat}
    (inside : part.least ≤ byte.toNat ∧ byte.toNat ≤ part.greatest)
    (more : part.remaining = remaining + 1) :
    decodeFrom position (some part) done (byte :: bytes) =
      decodeFrom position
        (some
          ⟨part.lead, part.seen + 1, remaining, 0x80, 0xbf,
            part.code * 0x40 + (byte.toNat - 0x80)⟩)
        done bytes := by
  rw [decodeFrom]
  simp only [if_pos inside, more]

/-- The last byte of a character completes it. -/
theorem decodeFrom_final {part : Pending} {byte : UInt8}
    (inside : part.least ≤ byte.toNat ∧ byte.toNat ≤ part.greatest)
    (last : part.remaining = 0) :
    decodeFrom position (some part) done (byte :: bytes) =
      decodeFrom (position + part.seen + 1) none
        (Char.ofNat (part.code * 0x40 + (byte.toNat - 0x80)) :: done) bytes := by
  rw [decodeFrom]
  simp only [if_pos inside, last]

/-! ## First bytes -/

theorem start_two :
    ∀ high < 0x20, 2 ≤ high →
      Pending.start (UInt8.ofNat (0xc0 + high)) =
        some ⟨UInt8.ofNat (0xc0 + high), 1, 0, 0x80, 0xbf, high⟩ := by
  decide

theorem start_three :
    ∀ high < 0x10,
      Pending.start (UInt8.ofNat (0xe0 + high)) =
        some
          ⟨UInt8.ofNat (0xe0 + high), 1, 1, if high = 0 then 0xa0 else 0x80,
            if high = 0xd then 0x9f else 0xbf, high⟩ := by
  decide

theorem start_four :
    ∀ high < 5,
      Pending.start (UInt8.ofNat (0xf0 + high)) =
        some
          ⟨UInt8.ofNat (0xf0 + high), 1, 2, if high = 0 then 0x90 else 0x80,
            if high = 4 then 0x8f else 0xbf, high⟩ := by
  decide

/-! ## Characters -/

theorem decodeFrom_one {code : Nat} (one : code < 0x80) :
    decodeFrom position none done (UInt8.ofNat code :: bytes) =
      decodeFrom (position + 1) none (Char.ofNat code :: done) bytes := by
  rw [decodeFrom]
  simp only [toNat_byte (show code < 0x100 by omega), if_pos one]

theorem decodeFrom_two {code : Nat} (notOne : 0x80 ≤ code) (two : code < 0x800) :
    decodeFrom position none done
        (UInt8.ofNat (0xc0 + code / 0x40) :: UInt8.ofNat (0x80 + code % 0x40) :: bytes) =
      decodeFrom (position + 2) none (Char.ofNat code :: done) bytes := by
  have lead := toNat_byte (show 0xc0 + code / 0x40 < 0x100 by omega)
  have second := toNat_byte (show 0x80 + code % 0x40 < 0x100 by omega)
  have whole : code / 0x40 * 0x40 + (0x80 + code % 0x40 - 0x80) = code := by omega
  rw [decodeFrom_lead (by omega) (start_two (code / 0x40) (by omega) (by omega)),
    decodeFrom_final (by simp only [second]; omega) rfl]
  simp only [second, whole]

theorem decodeFrom_three {code : Nat} (notTwo : 0x800 ≤ code) (three : code < 0x10000)
    (noSurrogate : code < 0xd800 ∨ 0xdfff < code) :
    decodeFrom position none done
        (UInt8.ofNat (0xe0 + code / 0x1000) :: UInt8.ofNat (0x80 + code / 0x40 % 0x40) ::
          UInt8.ofNat (0x80 + code % 0x40) :: bytes) =
      decodeFrom (position + 3) none (Char.ofNat code :: done) bytes := by
  have lead := toNat_byte (show 0xe0 + code / 0x1000 < 0x100 by omega)
  have second := toNat_byte (show 0x80 + code / 0x40 % 0x40 < 0x100 by omega)
  have third := toNat_byte (show 0x80 + code % 0x40 < 0x100 by omega)
  have least : (if code / 0x1000 = 0 then 0xa0 else 0x80) ≤ 0x80 + code / 0x40 % 0x40 := by
    split <;> omega
  have greatest : 0x80 + code / 0x40 % 0x40 ≤ if code / 0x1000 = 0xd then 0x9f else 0xbf := by
    split <;> omega
  have whole :
      (code / 0x1000 * 0x40 + (0x80 + code / 0x40 % 0x40 - 0x80)) * 0x40 +
        (0x80 + code % 0x40 - 0x80) = code := by
    omega
  rw [decodeFrom_lead (by omega) (start_three (code / 0x1000) (by omega)),
    decodeFrom_inner (by simp only [second]; exact ⟨least, greatest⟩) rfl,
    decodeFrom_final (by simp only [third]; omega) rfl]
  simp only [second, third, whole]

theorem decodeFrom_four {code : Nat} (notThree : 0x10000 ≤ code) (four : code < 0x110000) :
    decodeFrom position none done
        (UInt8.ofNat (0xf0 + code / 0x40000) :: UInt8.ofNat (0x80 + code / 0x1000 % 0x40) ::
          UInt8.ofNat (0x80 + code / 0x40 % 0x40) :: UInt8.ofNat (0x80 + code % 0x40) :: bytes) =
      decodeFrom (position + 4) none (Char.ofNat code :: done) bytes := by
  have lead := toNat_byte (show 0xf0 + code / 0x40000 < 0x100 by omega)
  have second := toNat_byte (show 0x80 + code / 0x1000 % 0x40 < 0x100 by omega)
  have third := toNat_byte (show 0x80 + code / 0x40 % 0x40 < 0x100 by omega)
  have fourth := toNat_byte (show 0x80 + code % 0x40 < 0x100 by omega)
  have least : (if code / 0x40000 = 0 then 0x90 else 0x80) ≤ 0x80 + code / 0x1000 % 0x40 := by
    split <;> omega
  have greatest : 0x80 + code / 0x1000 % 0x40 ≤ if code / 0x40000 = 4 then 0x8f else 0xbf := by
    split <;> omega
  have whole :
      ((code / 0x40000 * 0x40 + (0x80 + code / 0x1000 % 0x40 - 0x80)) * 0x40 +
        (0x80 + code / 0x40 % 0x40 - 0x80)) * 0x40 + (0x80 + code % 0x40 - 0x80) = code := by
    omega
  rw [decodeFrom_lead (by omega) (start_four (code / 0x40000) (by omega)),
    decodeFrom_inner (by simp only [second]; exact ⟨least, greatest⟩) rfl,
    decodeFrom_inner (by simp only [third]; omega) rfl,
    decodeFrom_final (by simp only [fourth]; omega) rfl]
  simp only [second, third, fourth, whole]

/-- The codes of characters leave out the surrogates. -/
theorem code_bounds (character : Char) :
    character.toNat < 0xd800 ∨ (0xdfff < character.toNat ∧ character.toNat < 0x110000) :=
  character.valid

/-- The bytes of a character are read as that character. -/
theorem decodeFrom_encodeCode (character : Char) :
    decodeFrom position none done (encodeCode character.toNat ++ bytes) =
      decodeFrom (position + (encodeCode character.toNat).length) none
        (character :: done) bytes := by
  have bounds := code_bounds character
  have made : Char.ofNat character.toNat = character := Char.ofNat_toNat character
  rw [encodeCode]
  split
  · next one =>
      rw [← made]
      simpa using decodeFrom_one one
  · split
    · next notOne two =>
        rw [← made]
        simpa using decodeFrom_two (by omega) two
    · split
      · next notOne notTwo three =>
          rw [← made]
          simpa using decodeFrom_three (by omega) three (by omega)
      · next notOne notTwo notThree =>
          have four : character.toNat < 0x110000 := by omega
          rw [← made]
          simpa using decodeFrom_four (by omega) four

/-! ## Texts -/

theorem decodeFrom_encode (position : Nat) (done characters : List Char) :
    decodeFrom position none done
        (characters.flatMap fun character => encodeCode character.toNat) =
      .ok (done.reverse ++ characters) := by
  induction characters generalizing position done with
  | nil => simp [decodeFrom]
  | cons character characters ih =>
      rw [List.flatMap_cons, decodeFrom_encodeCode, ih, List.reverse_cons, List.append_assoc]
      rfl

/-- The bytes of a text are read as the text. -/
@[simp]
theorem decode_encode (text : String) : decode (encode text) = .ok text := by
  rw [decode, encode, decodeFrom_encode]
  simp [Except.map]

end FuncAdapter.Text.Utf8
