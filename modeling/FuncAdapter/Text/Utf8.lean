import FuncAdapter.Text.Quoted

/-!
# Text as bytes

Text is stored in UTF-8.  Reading goes byte by byte: between characters every byte has to start a
character, and inside a character every byte has to continue it.

The range of the second byte depends on the first one, which rules out overlong forms, surrogates
and codes beyond the last character.  A fault names the first byte of the character that could not
be read, its position, and how many bytes of it were seen.
-/

namespace FuncAdapter.Text.Utf8

/-- The bytes of the character with the given code. -/
def encodeCode (code : Nat) : List UInt8 :=
  if code < 0x80 then
    [UInt8.ofNat code]
  else if code < 0x800 then
    [UInt8.ofNat (0xc0 + code / 0x40), UInt8.ofNat (0x80 + code % 0x40)]
  else if code < 0x10000 then
    [UInt8.ofNat (0xe0 + code / 0x1000), UInt8.ofNat (0x80 + code / 0x40 % 0x40),
      UInt8.ofNat (0x80 + code % 0x40)]
  else
    [UInt8.ofNat (0xf0 + code / 0x40000), UInt8.ofNat (0x80 + code / 0x1000 % 0x40),
      UInt8.ofNat (0x80 + code / 0x40 % 0x40), UInt8.ofNat (0x80 + code % 0x40)]

/-- The bytes of a text. -/
def encode (text : String) : List UInt8 :=
  text.toList.flatMap fun character => encodeCode character.toNat

/-- Why bytes are not text. -/
inductive Problem where
  | startByte
  | continuationByte
  | endOfData
  deriving DecidableEq, Repr

/-- The bytes that could not be read as a character. -/
structure Fault where
  lead : UInt8
  position : Nat
  count : Nat
  problem : Problem
  deriving DecidableEq, Repr

/-- A character of which some bytes have been read. -/
structure Pending where
  lead : UInt8
  /-- How many bytes have been read. -/
  seen : Nat
  /-- How many bytes are still to come after the next one. -/
  remaining : Nat
  /-- The least value of the next byte. -/
  least : Nat
  /-- The greatest value of the next byte. -/
  greatest : Nat
  /-- The bits of the code read so far. -/
  code : Nat
  deriving DecidableEq, Repr

/-- What the first byte of a character of several bytes says about the rest. -/
def Pending.start (lead : UInt8) : Option Pending :=
  let value := lead.toNat
  if value < 0xc2 then none
  else if value < 0xe0 then some ⟨lead, 1, 0, 0x80, 0xbf, value - 0xc0⟩
  else if value = 0xe0 then some ⟨lead, 1, 1, 0xa0, 0xbf, 0⟩
  else if value = 0xed then some ⟨lead, 1, 1, 0x80, 0x9f, 0xd⟩
  else if value < 0xf0 then some ⟨lead, 1, 1, 0x80, 0xbf, value - 0xe0⟩
  else if value = 0xf0 then some ⟨lead, 1, 2, 0x90, 0xbf, 0⟩
  else if value < 0xf4 then some ⟨lead, 1, 2, 0x80, 0xbf, value - 0xf0⟩
  else if value = 0xf4 then some ⟨lead, 1, 2, 0x80, 0x8f, 4⟩
  else none

/--
Read the bytes from `position` on, where a pending character begins or the next one is to begin.
The characters already read are given last first.
-/
def decodeFrom
    (position : Nat)
    (pending : Option Pending)
    (done : List Char) :
    List UInt8 → Except Fault (List Char)
  | [] =>
      match pending with
      | none => .ok done.reverse
      | some part => .error ⟨part.lead, position, part.seen, .endOfData⟩
  | byte :: bytes =>
      match pending with
      | none =>
          if byte.toNat < 0x80 then
            decodeFrom (position + 1) none (Char.ofNat byte.toNat :: done) bytes
          else
            match Pending.start byte with
            | none => .error ⟨byte, position, 1, .startByte⟩
            | some part => decodeFrom position (some part) done bytes
      | some part =>
          if part.least ≤ byte.toNat ∧ byte.toNat ≤ part.greatest then
            let code := part.code * 0x40 + (byte.toNat - 0x80)
            match part.remaining with
            | 0 => decodeFrom (position + part.seen + 1) none (Char.ofNat code :: done) bytes
            | remaining + 1 =>
                decodeFrom position
                  (some ⟨part.lead, part.seen + 1, remaining, 0x80, 0xbf, code⟩) done bytes
          else
            .error ⟨part.lead, position, part.seen, .continuationByte⟩

/-- The text that bytes stand for. -/
def decode (bytes : List UInt8) : Except Fault String :=
  (decodeFrom 0 none [] bytes).map String.ofList

/-- The words for a problem. -/
def Problem.message : Problem → String
  | .startByte => "invalid start byte"
  | .continuationByte => "invalid continuation byte"
  | .endOfData => "unexpected end of data"

/-- The words for a fault; several bytes are given by their first and last position. -/
def Fault.message (fault : Fault) : String :=
  let place :=
    if fault.count = 1 then
      "byte 0x" ++ String.ofList (hexDigits 2 fault.lead.toNat) ++ " in position " ++
        fault.position.repr
    else
      "bytes in position " ++ fault.position.repr ++ "-" ++
        (fault.position + fault.count - 1).repr
  "\x27utf-8\x27 codec can\x27t decode " ++ place ++ ": " ++ fault.problem.message

end FuncAdapter.Text.Utf8
