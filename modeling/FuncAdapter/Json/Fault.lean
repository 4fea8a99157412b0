/-!
# Faults in JSON text

A fault names what was expected or wrong and where.  Places count characters: the offset from zero,
lines and columns from one.  An integer with too many digits is a fault that is told without its
place.
-/

namespace FuncAdapter.Json

/-- What is wrong with a JSON text. -/
inductive Problem where
  | byteOrderMark
  | value
  | extraData
  | propertyName
  | colon
  | comma
  | unterminatedString
  | controlCharacter
  | escape
  | unicodeEscape
  | tooManyDigits (count : Nat)
  deriving DecidableEq, Repr

/-- How many digits an integer may have. -/
def digitLimit : Nat := 4300

/-- The words for a problem. -/
def Problem.message : Problem → String
  | .byteOrderMark => "Unexpected UTF-8 BOM (decode using utf-8-sig)"
  | .value => "Expecting value"
  | .extraData => "Extra data"
  | .propertyName => "Expecting property name enclosed in double quotes"
  | .colon => "Expecting \x27:\x27 delimiter"
  | .comma => "Expecting \x27,\x27 delimiter"
  | .unterminatedString => "Unterminated string starting at"
  | .controlCharacter => "Invalid control character at"
  | .escape => "Invalid \\escape"
  | .unicodeEscape => "Invalid \\uXXXX escape"
  | .tooManyDigits count =>
      "Exceeds the limit (" ++ digitLimit.repr ++ " digits) for integer string conversion: " ++
        "value has " ++ count.repr ++ " digits; " ++
        "use sys.set_int_max_str_digits() to increase the limit"

/-- Whether the place of a problem is told. -/
def Problem.isPlaced : Problem → Bool
  | .tooManyDigits _ => false
  | _ => true

/-- A problem and its place in the text. -/
structure Fault where
  problem : Problem
  offset : Nat
  line : Nat
  column : Nat
  deriving DecidableEq, Repr

namespace Fault

/-- The fault at the place where a given number of characters are left. -/
def locate (characters : List Char) (problem : Problem) (remaining : Nat) : Fault :=
  let offset := characters.length - remaining
  let before := characters.take offset
  ⟨problem, offset, before.count '\n' + 1,
    (before.reverse.takeWhile (· != '\n')).length + 1⟩

/-- The words for the place of a fault. -/
def place (fault : Fault) : String :=
  ": line " ++ fault.line.repr ++ " column " ++ fault.column.repr ++
    " (char " ++ fault.offset.repr ++ ")"

/-- The words for a fault. -/
def message (fault : Fault) : String :=
  fault.problem.message ++ if fault.problem.isPlaced then fault.place else ""

end Fault

end FuncAdapter.Json
