/-
Reading decimals: the float nearest to `digits * 10 ^ exponent`.

Design notes: a decimal whose leading digit stands far beyond the range of
floats is zero or infinite without computing its power of ten, so the work does
not grow with the exponent.
-/
namespace Chip8.Decimal

/-- The float nearest to a decimal number. -/
def nearest (negative : Bool) (digits : Nat) (exponent : Int) : Float :=
  let leading := exponent + (Nat.toDigits 10 digits).length
  let magnitude : Float :=
    if digits = 0 ∨ leading < -400 then 0.0
    else if 400 < leading then Float.ofBits 0x7FF0000000000000
    else Float.ofScientific digits (exponent < 0) exponent.natAbs
  if negative then -magnitude else magnitude

end Chip8.Decimal
