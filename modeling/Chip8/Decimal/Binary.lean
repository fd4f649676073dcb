/-
The exact value of a finite floating-point number.

A finite 64-bit float is a sign and a magnitude `m * 2 ^ q`.  The text of a
float is computed from this magnitude in exact arithmetic; what is written for
infinities and for what is no number is decided where the text is laid out.

* `Binary.ofFloat` decodes the bits of a float;
* `Binary.ratio` is the magnitude as a quotient of natural numbers.
-/
namespace Chip8.Decimal

/-- The magnitude `m * 2 ^ q` of a finite float. -/
structure Binary where
  /-- The significand. -/
  m : Nat
  /-- The exponent of two. -/
  q : Int
  /-- Whether the float below is only half as far away as the float above. -/
  narrowBelow : Bool
deriving DecidableEq, Repr

namespace Binary

/-- The magnitude that the bits of a finite float stand for. -/
def ofBits (bits : UInt64) : Binary :=
  let exponent : Nat := bits.toNat / Nat.pow 2 52 % 2048
  let fraction := bits.toNat % Nat.pow 2 52
  if exponent = 0 then
    ⟨fraction, -1074, false⟩
  else
    ⟨Nat.pow 2 52 + fraction, (exponent : Int) - 1075, fraction = 0 && 1 < exponent⟩

/-- The magnitude of a finite float. -/
def ofFloat (x : Float) : Binary :=
  ofBits x.toBits

/-- The magnitude as numerator and denominator. -/
def ratio (b : Binary) : Nat × Nat :=
  (b.m * Nat.pow 2 b.q.toNat, Nat.pow 2 (-b.q).toNat)

end Binary

/-- Whether the sign bit of a float is set; a zero has a sign too. -/
def isNegative (x : Float) : Bool :=
  Nat.pow 2 63 ≤ x.toBits.toNat

/-- The text of a float that is not finite. -/
def nonFiniteText (x : Float) : String :=
  if x.isNaN then "nan" else if isNegative x then "-inf" else "inf"

end Chip8.Decimal
