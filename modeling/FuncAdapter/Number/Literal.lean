import FuncAdapter.Number.Shortest

/-!
# Real number literals

How a real number is written in messages: positionally with at least one digit after the point while
the point lies close to the digits, otherwise with an exponent of at least two digits and a sign.
-/

namespace FuncAdapter.Number

/-- A decimal without trailing zeros in its digits. -/
def Decimal.trim (decimal : Decimal) : List Char × Int :=
  let digits := Nat.toDigits 10 decimal.digits
  let kept := (digits.reverse.dropWhile (· == '0')).reverse
  (kept, decimal.exponent + digits.length)

/-- An exponent with its sign and at least two digits. -/
def exponentText (exponent : Int) : List Char :=
  let digits := Nat.toDigits 10 exponent.natAbs
  let padded := if digits.length < 2 then '0' :: digits else digits
  (if exponent < 0 then '-' else '+') :: padded

/--
Digits with the point after the first `point` of them.  From seventeen places before the point on,
and from four zeros after it on, the exponent notation is used.
-/
def layout (digits : List Char) (point : Int) : List Char :=
  if point ≤ -4 ∨ 16 < point then
    let fraction := digits.drop 1
    digits.take 1 ++ (if fraction.isEmpty then [] else '.' :: fraction) ++
      'e' :: exponentText (point - 1)
  else if point ≤ 0 then
    '0' :: '.' :: List.replicate (-point).toNat '0' ++ digits
  else
    let whole := digits.take point.toNat
    let fraction := digits.drop point.toNat
    whole ++ List.replicate (point.toNat - whole.length) '0' ++
      '.' :: (if fraction.isEmpty then ['0'] else fraction)

/-- The literal of a real number given by its binary64 bits. -/
def literal (bits : UInt64) : String :=
  let sign := if isNegative bits then ['-'] else []
  match magnitude bits with
  | .notANumber => "nan"
  | .infinite => String.ofList (sign ++ ['i', 'n', 'f'])
  | .zero => String.ofList (sign ++ ['0', '.', '0'])
  | .finite number =>
      let (digits, point) := number.shortest.trim
      String.ofList (sign ++ layout digits point)

end FuncAdapter.Number
