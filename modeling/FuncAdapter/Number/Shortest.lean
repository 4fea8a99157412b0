/-!
# Shortest decimals

A binary64 number is written with the fewest decimal digits that still read back as the same number.
Among the decimals with that many digits the nearest one is taken, and of two equally near ones the
one with an even last digit.

The search is exact.  A number is a significand times a power of two, and the decimals that read
back as it are those between the midpoints to its two neighbours; the midpoints themselves belong to
the interval when the significand is even.
-/

namespace FuncAdapter.Number

/-- The decimal `digits * 10 ^ exponent`. -/
structure Decimal where
  digits : Nat
  exponent : Int
  deriving DecidableEq, Repr

/-- A positive number `significand * 2 ^ exponent`, with the significand in range for binary64. -/
structure Binary where
  significand : Nat
  exponent : Int
  deriving DecidableEq, Repr

/-- A number that is not negative, as a quotient. -/
structure Quotient where
  numerator : Nat
  denominator : Nat
  deriving DecidableEq, Repr

namespace Quotient

/-- The number `factor * base ^ exponent`. -/
def scaled (factor base : Nat) (exponent : Int) : Quotient :=
  ⟨factor * Nat.pow base exponent.toNat, Nat.pow base (-exponent).toNat⟩

/-- Whether the first number is at most the second. -/
def le (first second : Quotient) : Bool :=
  decide (first.numerator * second.denominator ≤ second.numerator * first.denominator)

/-- Whether the first number is below the second. -/
def lt (first second : Quotient) : Bool :=
  !le second first

end Quotient

namespace Binary

/-- The number itself. -/
def value (number : Binary) : Quotient :=
  .scaled number.significand 2 number.exponent

/-- The midpoint between a number and the next one above. -/
def upper (number : Binary) : Quotient :=
  .scaled (4 * number.significand + 2) 2 (number.exponent - 2)

/--
The midpoint between a number and the next one below, which lies nearer when the significand is the
least of its binade.
-/
def lower (number : Binary) : Quotient :=
  if number.significand = 1 <<< 52 ∧ number.exponent ≠ -1074 then
    .scaled (4 * number.significand - 1) 2 (number.exponent - 2)
  else
    .scaled (4 * number.significand - 2) 2 (number.exponent - 2)

/-- Whether a decimal reads back as the number. -/
def readsBack (number : Binary) (decimal : Decimal) : Bool :=
  let candidate := Quotient.scaled decimal.digits 10 decimal.exponent
  if number.significand % 2 = 0 then
    Quotient.le number.lower candidate && Quotient.le candidate number.upper
  else
    Quotient.lt number.lower candidate && Quotient.lt candidate number.upper

/-- The place of the first decimal digit of a number that is at least `10 ^ -330`. -/
def leadingPlace (number : Binary) : Int :=
  let scaledUp := number.value.numerator * Nat.pow 10 330 / number.value.denominator
  (Nat.toDigits 10 scaledUp).length - 331

/-- The decimals next to the number on the grid with step `10 ^ place`, nearest first. -/
def neighbours (number : Binary) (place : Int) : List Decimal :=
  let step := Quotient.scaled 1 10 place
  let top := number.value.numerator * step.denominator
  let bottom := number.value.denominator * step.numerator
  let below := top / bottom
  let excess := top % bottom
  if 2 * excess < bottom ∨ (2 * excess = bottom ∧ below % 2 = 0) then
    [⟨below, place⟩, ⟨below + 1, place⟩]
  else
    [⟨below + 1, place⟩, ⟨below, place⟩]

/-- The nearest decimal with a given number of digits that reads back. -/
def withDigits (number : Binary) (count : Nat) : Option Decimal :=
  (number.neighbours (number.leadingPlace - count + 1)).find? number.readsBack

/-- The shortest decimal that reads back; seventeen digits are always enough. -/
def shortest (number : Binary) : Decimal :=
  ((List.range 17).findSome? fun count => number.withDigits (count + 1)).getD
    ⟨number.significand, number.exponent⟩

end Binary

/-- What the bits of a binary64 number stand for, apart from the sign. -/
inductive Magnitude where
  | zero
  | finite (number : Binary)
  | infinite
  | notANumber
  deriving DecidableEq, Repr

/-- Whether the sign bit is set. -/
def isNegative (bits : UInt64) : Bool :=
  decide (1 <<< 63 ≤ bits.toNat)

/-- The magnitude that the bits of a binary64 number stand for. -/
def magnitude (bits : UInt64) : Magnitude :=
  let fraction : Nat := bits.toNat % (1 <<< 52)
  let biased : Nat := (bits.toNat >>> 52) % 0x800
  if biased = 0x7ff then
    if fraction = 0 then .infinite else .notANumber
  else if biased = 0 then
    if fraction = 0 then .zero else .finite ⟨fraction, -1074⟩
  else
    .finite ⟨(1 <<< 52) + fraction, (biased : Int) - 1075⟩

/-- The binary64 bits of a binary32 number, which has the same value. -/
def widen (bits : UInt32) : UInt64 :=
  let sign : Nat := bits.toNat >>> 31
  let biased : Nat := (bits.toNat >>> 23) % 0x100
  let fraction : Nat := bits.toNat % (1 <<< 23)
  let magnitudeBits : Nat :=
    if biased = 0xff then
      (0x7ff <<< 52) + (fraction <<< 29)
    else if biased = 0 then
      if fraction = 0 then
        0
      else
        let width := fraction.log2
        ((width + 874) <<< 52) + (fraction <<< (52 - width)) % (1 <<< 52)
    else
      ((biased + 896) <<< 52) + (fraction <<< 29)
  UInt64.ofNat ((sign <<< 63) + magnitudeBits)

end FuncAdapter.Number
