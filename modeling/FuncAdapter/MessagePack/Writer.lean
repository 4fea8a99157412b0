import FuncAdapter.Document.Basic
import FuncAdapter.MessagePack.BigEndian
import FuncAdapter.Text.Utf8

/-!
# Writing MessagePack

Every value is written with the smallest header that can hold it.  Text is written as UTF-8 and maps
keep the order of their entries.

Lengths are taken to be below `2 ^ 32` and integers to fit into 64 bits, as the format requires.
-/

namespace FuncAdapter.MessagePack

/-- The header of a text of some bytes. -/
def textHeader (length : Nat) : List UInt8 :=
  if length < 0x20 then [UInt8.ofNat (0xa0 + length)]
  else if length < 0x100 then 0xd9 :: bigEndian 1 length
  else if length < 0x10000 then 0xda :: bigEndian 2 length
  else 0xdb :: bigEndian 4 length

/-- The header of some bytes. -/
def bytesHeader (length : Nat) : List UInt8 :=
  if length < 0x100 then 0xc4 :: bigEndian 1 length
  else if length < 0x10000 then 0xc5 :: bigEndian 2 length
  else 0xc6 :: bigEndian 4 length

/-- The header of a list of some items. -/
def listHeader (length : Nat) : List UInt8 :=
  if length < 0x10 then [UInt8.ofNat (0x90 + length)]
  else if length < 0x10000 then 0xdc :: bigEndian 2 length
  else 0xdd :: bigEndian 4 length

/-- The header of a map of some entries. -/
def mapHeader (length : Nat) : List UInt8 :=
  if length < 0x10 then [UInt8.ofNat (0x80 + length)]
  else if length < 0x10000 then 0xde :: bigEndian 2 length
  else 0xdf :: bigEndian 4 length

/-- The header of an extension with some bytes, apart from its code. -/
def extensionHeader (length : Nat) : List UInt8 :=
  if length = 1 then [0xd4]
  else if length = 2 then [0xd5]
  else if length = 4 then [0xd6]
  else if length = 8 then [0xd7]
  else if length = 16 then [0xd8]
  else if length < 0x100 then 0xc7 :: bigEndian 1 length
  else if length < 0x10000 then 0xc8 :: bigEndian 2 length
  else 0xc9 :: bigEndian 4 length

/-- The bytes of an integer, where a negative one is written in two's complement. -/
def writeInteger (value : Int) : List UInt8 :=
  if 0 ≤ value then
    if value < 0x80 then twosComplement 1 value
    else if value < 0x100 then 0xcc :: twosComplement 1 value
    else if value < 0x10000 then 0xcd :: twosComplement 2 value
    else if value < 0x100000000 then 0xce :: twosComplement 4 value
    else 0xcf :: twosComplement 8 value
  else if -0x20 ≤ value then twosComplement 1 value
  else if -0x80 ≤ value then 0xd0 :: twosComplement 1 value
  else if -0x8000 ≤ value then 0xd1 :: twosComplement 2 value
  else if -0x80000000 ≤ value then 0xd2 :: twosComplement 4 value
  else 0xd3 :: twosComplement 8 value

/-- The bytes of a text with its header. -/
def writeText (text : String) : List UInt8 :=
  let encoded := Text.Utf8.encode text
  textHeader encoded.length ++ encoded

/-- Some bytes with their header. -/
def writeBytes (bytes : List UInt8) : List UInt8 :=
  bytesHeader bytes.length ++ bytes

/-- The bytes of the label of a map entry. -/
def writeLabel : Label → List UInt8
  | .text text => writeText text
  | .bytes bytes => writeBytes bytes

/-- The payload of a timestamp, in the longest of its three forms. -/
def timestampPayload (seconds : Int) (nanoseconds : Nat) : List UInt8 :=
  bigEndian 4 nanoseconds ++ twosComplement 8 seconds

mutual

/-- The bytes of a document. -/
def write : Document → List UInt8
  | .null => [0xc0]
  | .boolean false => [0xc2]
  | .boolean true => [0xc3]
  | .integer value => writeInteger value
  | .real bits => 0xcb :: bigEndian 8 bits.toNat
  | .text text => writeText text
  | .bytes bytes => writeBytes bytes
  | .extension code payload =>
      extensionHeader payload.length ++ UInt8.ofNat code :: payload
  | .timestamp seconds nanoseconds =>
      extensionHeader 12 ++ 0xff :: timestampPayload seconds nanoseconds
  | .list items => listHeader items.length ++ writeItems items
  | .map entries => mapHeader entries.length ++ writeEntries entries

/-- The bytes of the items of a list. -/
def writeItems : List Document → List UInt8
  | [] => []
  | item :: items => write item ++ writeItems items

/-- The bytes of the entries of a map. -/
def writeEntries : List (Label × Document) → List UInt8
  | [] => []
  | (label, item) :: entries => writeLabel label ++ (write item ++ writeEntries entries)

end

end FuncAdapter.MessagePack
