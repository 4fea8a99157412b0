/-!
# Ranges of code points

A character property is given by a list of ranges.  A range may skip code points at a fixed step,
because capital and small letters often alternate.
-/

namespace FuncAdapter.Text

/-- The code points `first`, `first + step`, and so on, up to `last`. -/
structure CodeRange where
  first : Nat
  last : Nat
  step : Nat
  deriving DecidableEq, Repr

namespace CodeRange

/-- Whether a code point is one of the range. -/
def contains (range : CodeRange) (code : Nat) : Bool :=
  decide (range.first ≤ code) && decide (code ≤ range.last) &&
    (code - range.first) % range.step == 0

/-- Whether some range of a table contains the character. -/
def cover (ranges : List CodeRange) (character : Char) : Bool :=
  ranges.any fun range => range.contains character.toNat

end CodeRange

end FuncAdapter.Text
