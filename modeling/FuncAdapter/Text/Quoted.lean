import FuncAdapter.Text.Join
import FuncAdapter.Text.Printable

/-!
# Quoted text

Messages show text and bytes between quotes.  The apostrophe is the usual quote; text that contains
an apostrophe and no double quote stands between double quotes, so that nothing needs an escape.

A backslash and the quote in use are escaped by a backslash, line feed, carriage return and tab by
their letters, and every other character without a glyph by its code in hexadecimal.
-/

namespace FuncAdapter.Text

/-- The apostrophe, the usual quote. -/
def apostrophe : Char := '\x27'

/-- The double quote, used around text that contains apostrophes only. -/
def doubleQuote : Char := '\x22'

/-- The quote to put around characters. -/
def quoteFor (characters : List Char) : Char :=
  if characters.contains apostrophe && !characters.contains doubleQuote then
    doubleQuote
  else
    apostrophe

/-- The last `width` hexadecimal digits of a number. -/
def hexDigits (width number : Nat) : List Char :=
  let digits := Nat.toDigits 16 number
  List.replicate (width - digits.length) '0' ++ digits

/-- A character code in hexadecimal, in the shortest of the three notations that can hold it. -/
def codeEscape (code : Nat) : List Char :=
  if code < 0x100 then
    '\\' :: 'x' :: hexDigits 2 code
  else if code < 0x10000 then
    '\\' :: 'u' :: hexDigits 4 code
  else
    '\\' :: 'U' :: hexDigits 8 code

/-- One character between quotes, where `visible` tells which characters stand for themselves. -/
def escaped (visible : Char → Bool) (quote character : Char) : List Char :=
  if character = quote || character = '\\' then
    ['\\', character]
  else if character = '\n' then
    ['\\', 'n']
  else if character = '\r' then
    ['\\', 'r']
  else if character = '\t' then
    ['\\', 't']
  else if visible character then
    [character]
  else
    codeEscape character.toNat

/-- Characters between quotes. -/
def quotedCharacters (visible : Char → Bool) (characters : List Char) : String :=
  let quote := quoteFor characters
  String.ofList (quote :: characters.flatMap (escaped visible quote) ++ [quote])

/-- Text between quotes. -/
def quoted (text : String) : String :=
  quotedCharacters isPrintable text.toList

/-- Whether a byte, taken as a character, stands for itself between quotes. -/
def isPlainByte (character : Char) : Bool :=
  decide (0x20 ≤ character.toNat) && decide (character.toNat < 0x7f)

/-- Bytes between quotes, with a letter in front that tells them from text. -/
def quotedBytes (bytes : List UInt8) : String :=
  "b" ++ quotedCharacters isPlainByte (bytes.map fun byte => Char.ofNat byte.toNat)

/-- A list of texts between brackets. -/
def quotedList (texts : List String) : String :=
  "[" ++ join ", " (texts.map quoted) ++ "]"

end FuncAdapter.Text
