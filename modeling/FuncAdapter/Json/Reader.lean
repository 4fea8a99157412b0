import FuncAdapter.Document.Basic
import FuncAdapter.Json.Fault
import FuncAdapter.Number.Rounded

/-!
# Reading JSON

A reader takes characters and gives a value with the characters that follow it, which are fewer.
That is why reading ends, however deeply lists and maps nest.

A number with a fraction or an exponent is real, any other an integer, whose digits are limited in
number.  Where a label of a map repeats, the last value wins and the place of the first one is kept.
-/

namespace FuncAdapter.Json

/-- A problem and how many characters were left where it was noticed. -/
structure Stop where
  problem : Problem
  remaining : Nat
  deriving DecidableEq, Repr

/-- A value read from characters, with the fewer characters that follow it. -/
structure Scanned (value : Type) (characters : List Char) where
  value : value
  rest : List Char
  shorter : rest.length < characters.length

/-- A value read from some characters has been read from any more characters. -/
def Scanned.widen {value : Type} {inner outer : List Char}
    (scanned : Scanned value inner) (fewer : inner.length ≤ outer.length) :
    Scanned value outer :=
  ⟨scanned.value, scanned.rest, Nat.lt_of_lt_of_le scanned.shorter fewer⟩

/-- Whether a character may stand between the parts of a text. -/
def isBlank (character : Char) : Bool :=
  character == ' ' || character == '\t' || character == '\n' || character == '\r'

/-- The characters from the first one on that is not blank. -/
def skipBlank (characters : List Char) : List Char :=
  characters.dropWhile isBlank

theorem length_skipBlank_le (characters : List Char) :
    (skipBlank characters).length ≤ characters.length :=
  (List.dropWhile_sublist isBlank).length_le

/-! ## Strings -/

/-- The value of a hexadecimal digit. -/
def hexValue? (character : Char) : Option Nat :=
  let code := character.toNat
  if 0x30 ≤ code ∧ code ≤ 0x39 then some (code - 0x30)
  else if 0x41 ≤ code ∧ code ≤ 0x46 then some (code - 0x41 + 10)
  else if 0x61 ≤ code ∧ code ≤ 0x66 then some (code - 0x61 + 10)
  else none

/-- The number that four hexadecimal digits stand for. -/
def hexNumber? (first second third fourth : Char) : Option Nat := do
  return (((← hexValue? first) * 16 + (← hexValue? second)) * 16 + (← hexValue? third)) * 16 +
    (← hexValue? fourth)

/-- Whether a code is the first half of a pair. -/
def isHighHalf (code : Nat) : Bool := decide (0xd800 ≤ code) && decide (code ≤ 0xdbff)

/-- Whether a code is the second half of a pair. -/
def isLowHalf (code : Nat) : Bool := decide (0xdc00 ≤ code) && decide (code ≤ 0xdfff)

/-- The character with a code, where half of a pair gives the replacement character. -/
def characterOf (code : Nat) : Char :=
  if isHighHalf code || isLowHalf code then '\ufffd' else Char.ofNat code

/-- The character that a pair of halves stands for. -/
def pairCharacter (high low : Nat) : Char :=
  Char.ofNat (0x10000 + (high - 0xd800) * 0x400 + (low - 0xdc00))

/-- The character that a letter after a backslash stands for. -/
def escapeCharacter? (letter : Char) : Option Char :=
  match letter with
  | '\x22' => some '\x22'
  | '\\' => some '\\'
  | '/' => some '/'
  | 'b' => some '\x08'
  | 'f' => some '\x0c'
  | 'n' => some '\n'
  | 'r' => some '\r'
  | 't' => some '\t'
  | _ => none

/--
The second half of a pair, if an escape for one follows the first half.  At least one more character
has to follow the escape.
-/
def secondHalf (after : List Char) : Except Stop (Option Nat) :=
  match after with
  | '\\' :: 'u' :: first :: second :: third :: fourth :: _ :: _ =>
      match hexNumber? first second third fourth with
      | none => .error ⟨.unicodeEscape, after.length - 1⟩
      | some code => .ok (if isLowHalf code then some code else none)
  | _ => .ok none

/--
Read the characters of a string after its opening quote, which `opening` starts with.  The
characters already read are given last first.
-/
def readString (opening : List Char) (done : List Char) :
    (characters : List Char) → Except Stop (Scanned String characters)
  | [] => .error ⟨.unterminatedString, opening.length⟩
  | '\x22' :: rest => .ok ⟨String.ofList done.reverse, rest, by simp⟩
  | ['\\'] => .error ⟨.unterminatedString, opening.length⟩
  | '\\' :: 'u' :: digits =>
      match digits with
      | first :: second :: third :: fourth :: next :: more =>
          match hexNumber? first second third fourth with
          | none => .error ⟨.unicodeEscape, more.length + 6⟩
          | some code =>
              if isHighHalf code then do
                match ← secondHalf (next :: more) with
                | some low =>
                    let scanned ←
                      readString opening (pairCharacter code low :: done) (more.drop 5)
                    return scanned.widen (by simp; omega)
                | none =>
                    let scanned ← readString opening (characterOf code :: done) (next :: more)
                    return scanned.widen (by simp)
              else do
                let scanned ← readString opening (characterOf code :: done) (next :: more)
                return scanned.widen (by simp)
      | short => .error ⟨.unicodeEscape, short.length + 1⟩
  | '\\' :: letter :: rest =>
      match escapeCharacter? letter with
      | none => .error ⟨.escape, rest.length + 2⟩
      | some character => do
          let scanned ← readString opening (character :: done) rest
          return scanned.widen (by simp; omega)
  | character :: rest =>
      if character.toNat < 0x20 then
        .error ⟨.controlCharacter, rest.length + 1⟩
      else do
        let scanned ← readString opening (character :: done) rest
        return scanned.widen (by simp)
termination_by characters => characters.length
decreasing_by
  all_goals simp
  all_goals omega

/-! ## Numbers and names -/

/-- The longest run of decimal digits at the start, with what follows. -/
def spanDigits (characters : List Char) : List Char × List Char :=
  (characters.takeWhile Char.isDigit, characters.dropWhile Char.isDigit)

/-- The digits before the point: a single zero, or a run that does not start with zero. -/
def wholeDigits : List Char → List Char × List Char
  | '0' :: rest => (['0'], rest)
  | characters => spanDigits characters

/-- The digits after a point; a point without digits is not part of the number. -/
def fractionDigits : List Char → List Char × List Char
  | '.' :: rest =>
      match spanDigits rest with
      | ([], _) => ([], '.' :: rest)
      | spanned => spanned
  | characters => ([], characters)

/-- The sign and the digits of an exponent after its letter. -/
def signedDigits : List Char → Bool × List Char × List Char
  | '-' :: rest => (true, spanDigits rest)
  | '+' :: rest => (false, spanDigits rest)
  | characters => (false, spanDigits characters)

/-- The number that decimal digits stand for. -/
def digitsValue (digits : List Char) : Nat :=
  digits.foldl (fun number digit => number * 10 + (digit.toNat - 0x30)) 0

/-- The exponent of a number; a letter without digits is not part of the number. -/
def exponentOf (characters : List Char) : Option Int × List Char :=
  match characters with
  | letter :: rest =>
      if letter == 'e' || letter == 'E' then
        match signedDigits rest with
        | (_, [], _) => (none, characters)
        | (true, digits, after) => (some (-(digitsValue digits : Int)), after)
        | (false, digits, after) => (some (digitsValue digits), after)
      else
        (none, characters)
  | [] => (none, [])

/-- The number that characters start with, with what follows. -/
def numberOf? (characters : List Char) : Option (Document × List Char) :=
  let negative := characters.head? == some '-'
  let (whole, afterWhole) := wholeDigits (if negative then characters.drop 1 else characters)
  if whole.isEmpty then
    none
  else
    let (fraction, afterFraction) := fractionDigits afterWhole
    let (exponent, rest) := exponentOf afterFraction
    if fraction.isEmpty && exponent.isNone then
      let number : Int := digitsValue whole
      some (.integer (if negative then -number else number), rest)
    else
      let bits := Number.nearestBits (digitsValue (whole ++ fraction))
        (exponent.getD 0 - fraction.length)
      some (.real (if negative then Number.negated bits else bits), rest)

/-- The values that are written as words. -/
def wordValues : List (String × Document) :=
  [("null", .null), ("true", .boolean true), ("false", .boolean false),
    ("NaN", .real Number.notANumberBits), ("Infinity", .real Number.infinityBits),
    ("-Infinity", .real (Number.negated Number.infinityBits))]

/-- The word that characters start with, with what follows. -/
def wordOf? (characters : List Char) : Option (Document × List Char) :=
  (wordValues.find? fun entry => entry.1.toList.isPrefixOf characters).map fun entry =>
    (entry.2, characters.drop entry.1.length)

/-- How many of some characters are digits. -/
def digitCount (characters : List Char) : Nat :=
  (characters.filter Char.isDigit).length

/-- Whether a value is an integer that is written with too many digits. -/
def hasExcessDigits (written : List Char) : Document → Bool
  | .integer _ => decide (digitLimit < digitCount written)
  | _ => false

/-- Read a number or a word. -/
def readScalar (characters : List Char) : Except Stop (Scanned Document characters) :=
  match wordOf? characters <|> numberOf? characters with
  | some (value, rest) =>
      let written := characters.take (characters.length - rest.length)
      if hasExcessDigits written value then
        .error ⟨.tooManyDigits (digitCount written), characters.length⟩
      else if shorter : rest.length < characters.length then
        .ok ⟨value, rest, shorter⟩
      else
        .error ⟨.value, characters.length⟩
  | none => .error ⟨.value, characters.length⟩

/-! ## Values -/

mutual

/-- Read a value. -/
def readValue : (characters : List Char) → Except Stop (Scanned Document characters)
  | [] => .error ⟨.value, 0⟩
  | '\x22' :: rest => do
      let scanned ← readString ('\x22' :: rest) [] rest
      return ⟨.text scanned.value, scanned.rest, by have := scanned.shorter; simp; omega⟩
  | '[' :: rest =>
      match closing : skipBlank rest with
      | ']' :: after =>
          have fewer := length_skipBlank_le rest
          .ok ⟨.list [], after, by simp [closing] at fewer ⊢; omega⟩
      | _ => do
          have fewer := length_skipBlank_le rest
          let scanned ← readItems [] (skipBlank rest)
          return ⟨.list scanned.value, scanned.rest,
            by have := scanned.shorter; simp; omega⟩
  | '\x7b' :: rest =>
      match closing : skipBlank rest with
      | '\x7d' :: after =>
          have fewer := length_skipBlank_le rest
          .ok ⟨.map [], after, by simp [closing] at fewer ⊢; omega⟩
      | _ => do
          have fewer := length_skipBlank_le rest
          let scanned ← readMembers [] (skipBlank rest)
          return ⟨.map scanned.value, scanned.rest,
            by have := scanned.shorter; simp; omega⟩
  | characters => readScalar characters
termination_by characters => (characters.length, 0)
decreasing_by
  all_goals
    apply Prod.Lex.left
    simp
    omega

/-- Read the items of a list up to its closing bracket; those already read come last first. -/
def readItems (done : List Document) (characters : List Char) :
    Except Stop (Scanned (List Document) characters) := do
  let item ← readValue characters
  have shorter := item.shorter
  have fewer := length_skipBlank_le item.rest
  match following : skipBlank item.rest with
  | ']' :: rest =>
      return ⟨(item.value :: done).reverse, rest, by simp [following] at fewer; omega⟩
  | ',' :: rest =>
      have fewerStill := length_skipBlank_le rest
      have smaller : (skipBlank rest).length < characters.length := by
        simp [following] at fewer
        omega
      let items ← readItems (item.value :: done) (skipBlank rest)
      return items.widen (Nat.le_of_lt smaller)
  | other => throw ⟨.comma, other.length⟩
termination_by (characters.length, 1)
decreasing_by
  · exact Prod.Lex.right _ (by omega)
  · exact Prod.Lex.left _ _ smaller

/-- Read the entries of a map up to its closing brace; those already read come first. -/
def readMembers (done : List (Label × Document)) :
    (characters : List Char) → Except Stop (Scanned (List (Label × Document)) characters)
  | '\x22' :: afterQuote => do
      let label ← readString ('\x22' :: afterQuote) [] afterQuote
      have labelShorter := label.shorter
      have fewerAfterLabel := length_skipBlank_le label.rest
      match separator : skipBlank label.rest with
      | ':' :: afterColon =>
          have fewerAfterColon := length_skipBlank_le afterColon
          have smaller : (skipBlank afterColon).length < afterQuote.length + 1 := by
            simp [separator] at fewerAfterLabel
            omega
          let item ← readValue (skipBlank afterColon)
          have itemShorter := item.shorter
          have fewerAfterItem := length_skipBlank_le item.rest
          let entries := Entries.store (Label.text label.value) item.value done
          match following : skipBlank item.rest with
          | '\x7d' :: rest =>
              return ⟨entries, rest, by simp [following] at fewerAfterItem; simp; omega⟩
          | ',' :: rest =>
              have fewerStill := length_skipBlank_le rest
              have smallerStill : (skipBlank rest).length < afterQuote.length + 1 := by
                simp [following] at fewerAfterItem
                omega
              let members ← readMembers entries (skipBlank rest)
              return members.widen (by simp; omega)
          | other => throw ⟨.comma, other.length⟩
      | other => throw ⟨.colon, other.length⟩
  | other => .error ⟨.propertyName, other.length⟩
termination_by characters => (characters.length, 1)
decreasing_by
  · exact Prod.Lex.left _ _ smaller
  · exact Prod.Lex.left _ _ smallerStill

end

/-- Read a whole text, in which nothing but blanks may surround the value. -/
def readText (characters : List Char) : Except Stop Document := do
  if characters.head? == some '\ufeff' then
    throw ⟨.byteOrderMark, characters.length⟩
  let scanned ← readValue (skipBlank characters)
  match skipBlank scanned.rest with
  | [] => return scanned.value
  | other => throw ⟨.extraData, other.length⟩

/-- The document that a JSON text stands for. -/
def parse (text : String) : Except Fault Document :=
  (readText text.toList).mapError fun stop =>
    Fault.locate text.toList stop.problem stop.remaining

end FuncAdapter.Json
