/-!
# Numbers as bytes

Numbers of a fixed width are stored with the most significant byte first, and negative ones in two's
complement.
-/

namespace FuncAdapter.MessagePack

/-- How many numbers fit into some bytes. -/
def capacity : Nat → Nat
  | 0 => 1
  | width + 1 => capacity width * 256

/-- The last `width` bytes of a number, most significant first. -/
def bigEndian : Nat → Nat → List UInt8
  | 0, _ => []
  | width + 1, number => UInt8.ofNat (number / capacity width) :: bigEndian width number

@[simp]
theorem length_bigEndian (width number : Nat) : (bigEndian width number).length = width := by
  induction width with
  | zero => rfl
  | succ width ih => simp [bigEndian, ih]

/-- The last `width` bytes of an integer in two's complement. -/
def twosComplement (width : Nat) (value : Int) : List UInt8 :=
  bigEndian width (value % capacity width).toNat

@[simp]
theorem length_twosComplement (width : Nat) (value : Int) :
    (twosComplement width value).length = width :=
  length_bigEndian width _

/-- The number that bytes stand for, most significant first. -/
def ofBigEndian (bytes : List UInt8) : Nat :=
  bytes.foldl (fun number byte => number * 256 + byte.toNat) 0

/-- The number that bytes stand for in two's complement. -/
def ofTwosComplement (bytes : List UInt8) : Int :=
  let number := ofBigEndian bytes
  if 2 * number < capacity bytes.length then number else (number : Int) - capacity bytes.length

end FuncAdapter.MessagePack
