/-
Decimals with a fixed number of places.

`rounded places x` writes the exact value of a float with so many digits behind
the point.  What lies halfway goes to the even neighbour, and a number that
rounds to zero keeps its sign.
-/
import Chip8.Decimal.Binary

namespace Chip8.Decimal

/-- The integer nearest to a quotient; of two equally near the even one. -/
def roundHalfEven (num den : Nat) : Nat :=
  let low := num / den
  let rest := num % den
  if den < 2 * rest ∨ (2 * rest = den ∧ low % 2 = 1) then low + 1 else low

/-- The digits of a number, filled with zeros to a least length. -/
def padded (width n : Nat) : String :=
  let digits := Nat.toDigits 10 n
  String.ofList (List.replicate (width - digits.length) '0' ++ digits)

/-- A float with a fixed number of places behind the point. -/
def rounded (places : Nat) (x : Float) : String :=
  if x.isFinite then
    let (num, den) := (Binary.ofFloat x).ratio
    let n := roundHalfEven (num * Nat.pow 10 places) den
    let sign := if isNegative x then "-" else ""
    let whole := Nat.repr (n / Nat.pow 10 places)
    if places = 0 then sign ++ whole
    else sign ++ whole ++ "." ++ padded places (n % Nat.pow 10 places)
  else
    nonFiniteText x

end Chip8.Decimal
