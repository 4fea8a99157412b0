/-!
# Rounded decimals

The binary64 number nearest to a decimal.  Decimals far outside the range of binary64 are infinite
or zero.
-/

namespace FuncAdapter.Number

/-- The bits of positive infinity. -/
def infinityBits : UInt64 := 0x7ff0000000000000

/-- The bits of the usual value that is not a number. -/
def notANumberBits : UInt64 := 0x7ff8000000000000

/-- The bits of the negative of a number that is not negative. -/
def negated (bits : UInt64) : UInt64 := bits ||| 0x8000000000000000

/-- The bits of the binary64 number nearest to `digits * 10 ^ exponent`. -/
def nearestBits (digits : Nat) (exponent : Int) : UInt64 :=
  let place := exponent + (Nat.toDigits 10 digits).length
  if digits = 0 ∨ place < -330 then
    0
  else if 310 < place then
    infinityBits
  else
    (Float.ofScientific digits (decide (exponent < 0)) exponent.natAbs).toBits

end FuncAdapter.Number
