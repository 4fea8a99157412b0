import FuncAdapter.Document.Basic
import FuncAdapter.MessagePack.BigEndian
import FuncAdapter.Number.Shortest
import FuncAdapter.Text.Utf8

/-!
# Reading MessagePack

A reader takes bytes and gives a value with the bytes that follow it.  Containers may nest up to a
limit, which is also what the reader recurses on.

A list may not announce more items than the input has bytes, and a map not more entries than half
of them; both are checked as soon as the header has been read.  The label of a map entry is checked
after the value of the entry has been read.
-/

namespace FuncAdapter.MessagePack

/-- Why bytes are not a document. -/
inductive Fault where
  | incomplete
  | extraData
  /-- The byte that no value starts with. -/
  | reserved
  | tooDeep
  | listTooLong (length limit : Nat)
  | mapTooLong (length limit : Nat)
  | mapLabel (found : Shape)
  | text (fault : Text.Utf8.Fault)
  | timestampLength (length : Nat)
  | nanoseconds
  | extensionCode
  deriving DecidableEq, Repr

/-- The words for a fault; an unusable byte and too deep a nesting have none. -/
def Fault.message : Fault → String
  | .incomplete => "Unpack failed: incomplete input"
  | .extraData => "unpack(b) received extra data."
  | .reserved => ""
  | .tooDeep => ""
  | .listTooLong length limit =>
      length.repr ++ " exceeds max_array_len(" ++ limit.repr ++ ")"
  | .mapTooLong length limit =>
      length.repr ++ " exceeds max_map_len(" ++ limit.repr ++ ")"
  | .mapLabel found => found.word ++ " is not allowed for map key when strict_map_key=True"
  | .text fault => fault.message
  | .timestampLength length =>
      "invalid timestamp data (length " ++ length.repr ++ ")"
  | .nanoseconds => "nanoseconds must be a non-negative integer not greater than 999999999."
  | .extensionCode => "code must be 0~127"

/-- Takes bytes and gives a value with the bytes that follow it. -/
abbrev Reader (value : Type) := List UInt8 → Except Fault (value × List UInt8)

/-- Read a fixed number of bytes. -/
def readBytes (count : Nat) : Reader (List UInt8) := fun bytes =>
  let front := bytes.take count
  if front.length = count then .ok (front, bytes.drop count) else .error .incomplete

/-- Read a number of a fixed width. -/
def readNumber (width : Nat) : Reader Nat := fun bytes => do
  let (front, rest) ← readBytes width bytes
  return (ofBigEndian front, rest)

/-- Read an integer without sign. -/
def readUnsigned (width : Nat) : Reader Document := fun bytes => do
  let (number, rest) ← readNumber width bytes
  return (.integer number, rest)

/-- Read an integer in two's complement. -/
def readSigned (width : Nat) : Reader Document := fun bytes => do
  let (front, rest) ← readBytes width bytes
  return (.integer (ofTwosComplement front), rest)

/-- Read a binary32 number. -/
def readSingle : Reader Document := fun bytes => do
  let (number, rest) ← readNumber 4 bytes
  return (.real (Number.widen (UInt32.ofNat number)), rest)

/-- Read a binary64 number. -/
def readDouble : Reader Document := fun bytes => do
  let (number, rest) ← readNumber 8 bytes
  return (.real (UInt64.ofNat number), rest)

/-- Read a text of some bytes. -/
def readText (length : Nat) : Reader Document := fun bytes => do
  let (front, rest) ← readBytes length bytes
  match Text.Utf8.decode front with
  | .ok text => return (.text text, rest)
  | .error fault => throw (.text fault)

/-- Read some bytes as they are. -/
def readBinary (length : Nat) : Reader Document := fun bytes => do
  let (front, rest) ← readBytes length bytes
  return (.bytes front, rest)

/-- A timestamp, if the nanoseconds are less than a second. -/
def timestamp (seconds : Int) (nanoseconds : Nat) : Except Fault Document :=
  if nanoseconds ≤ 999999999 then
    .ok (.timestamp seconds nanoseconds)
  else
    .error .nanoseconds

/-- The timestamp that a payload stands for in one of its three forms. -/
def timestampOf (payload : List UInt8) : Except Fault Document :=
  let number := ofBigEndian payload
  match payload.length with
  | 4 => timestamp number 0
  | 8 => timestamp (number % 0x400000000 : Nat) (number / 0x400000000)
  | 12 => timestamp (ofTwosComplement (payload.drop 4)) (ofBigEndian (payload.take 4))
  | length => .error (.timestampLength length)

/-- The extension with a code; code 255 marks timestamps and the others above 127 are not used. -/
def extensionOf (code : UInt8) (payload : List UInt8) : Except Fault Document :=
  if code = 0xff then
    timestampOf payload
  else if code.toNat < 0x80 then
    .ok (.extension code.toNat payload)
  else
    .error .extensionCode

/-- Read the code and the payload of an extension. -/
def readExtension (length : Nat) : Reader Document := fun bytes => do
  let (front, rest) ← readBytes (length + 1) bytes
  match front with
  | code :: payload => return (← extensionOf code payload, rest)
  | [] => throw .incomplete

/-- Read the length of a value and then the value. -/
def readSized (width : Nat) (read : Nat → Reader Document) : Reader Document := fun bytes => do
  let (length, rest) ← readNumber width bytes
  read length rest

/-- Read a number of items. -/
def readItems (read : Reader Document) : Nat → Reader (List Document)
  | 0, bytes => .ok ([], bytes)
  | count + 1, bytes => do
      let (item, rest) ← read bytes
      let (items, rest) ← readItems read count rest
      return (item :: items, rest)

/-- The label that a document stands for. -/
def labelOf : Document → Except Fault Label
  | .text text => .ok (.text text)
  | .bytes bytes => .ok (.bytes bytes)
  | other => .error (.mapLabel other.shape)

/-- Read a number of entries and store them after those already read. -/
def readEntries (read : Reader Document) :
    Nat → List (Label × Document) → Reader (List (Label × Document))
  | 0, entries, bytes => .ok (entries, bytes)
  | count + 1, entries, bytes => do
      let (key, rest) ← read bytes
      let (item, rest) ← read rest
      let label ← labelOf key
      readEntries read count (Entries.store label item entries) rest

/-- Read a list of an announced length; there is no reader for items below the last level. -/
def readList (total : Nat) (inner : Option (Reader Document)) (length : Nat) :
    Reader Document := fun bytes =>
  match inner with
  | none => .error .tooDeep
  | some read =>
      if total < length then
        .error (.listTooLong length total)
      else do
        let (items, rest) ← readItems read length bytes
        return (.list items, rest)

/-- Read a map of an announced length; there is no reader for entries below the last level. -/
def readMap (total : Nat) (inner : Option (Reader Document)) (length : Nat) :
    Reader Document := fun bytes =>
  match inner with
  | none => .error .tooDeep
  | some read =>
      if total / 2 < length then
        .error (.mapTooLong length (total / 2))
      else do
        let (entries, rest) ← readEntries read length [] bytes
        return (.map entries, rest)

/-- Read the value that a header of the group for fixed and sized values announces. -/
def readTagged (total : Nat) (inner : Option (Reader Document)) : Nat → Reader Document
  | 0xc0 => fun rest => .ok (.null, rest)
  | 0xc2 => fun rest => .ok (.boolean false, rest)
  | 0xc3 => fun rest => .ok (.boolean true, rest)
  | 0xc4 => readSized 1 readBinary
  | 0xc5 => readSized 2 readBinary
  | 0xc6 => readSized 4 readBinary
  | 0xc7 => readSized 1 readExtension
  | 0xc8 => readSized 2 readExtension
  | 0xc9 => readSized 4 readExtension
  | 0xca => readSingle
  | 0xcb => readDouble
  | 0xcc => readUnsigned 1
  | 0xcd => readUnsigned 2
  | 0xce => readUnsigned 4
  | 0xcf => readUnsigned 8
  | 0xd0 => readSigned 1
  | 0xd1 => readSigned 2
  | 0xd2 => readSigned 4
  | 0xd3 => readSigned 8
  | 0xd4 => readExtension 1
  | 0xd5 => readExtension 2
  | 0xd6 => readExtension 4
  | 0xd7 => readExtension 8
  | 0xd8 => readExtension 16
  | 0xd9 => readSized 1 readText
  | 0xda => readSized 2 readText
  | 0xdb => readSized 4 readText
  | 0xdc => readSized 2 (readList total inner)
  | 0xdd => readSized 4 (readList total inner)
  | 0xde => readSized 2 (readMap total inner)
  | 0xdf => readSized 4 (readMap total inner)
  | _ => fun _ => .error .reserved

/-- Read one value, given the reader for what a container holds. -/
def readValue (total : Nat) (inner : Option (Reader Document)) : Reader Document
  | [] => .error .incomplete
  | head :: rest =>
      let code := head.toNat
      if code < 0x80 then .ok (.integer code, rest)
      else if code < 0x90 then readMap total inner (code - 0x80) rest
      else if code < 0xa0 then readList total inner (code - 0x90) rest
      else if code < 0xc0 then readText (code - 0xa0) rest
      else if code < 0xe0 then readTagged total inner code rest
      else .ok (.integer ((code : Int) - 0x100), rest)

/-- Read one value that may hold containers nested up to the given depth. -/
def read (total : Nat) : Nat → Reader Document
  | 0 => readValue total none
  | levels + 1 => readValue total (some (read total levels))

/-- How many containers may nest. -/
def nestingLimit : Nat := 1024

/-- The document that bytes stand for. -/
def decode (bytes : List UInt8) : Except Fault Document := do
  let (document, rest) ← read bytes.length nestingLimit bytes
  if rest.isEmpty then return document else throw .extraData

end FuncAdapter.MessagePack
