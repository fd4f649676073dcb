/-
The shortest decimal that identifies a float.

`select` finds the fewest digits that read back to a float: it walks the
decimal grids from coarse to fine, tests the two neighbours of the value on each
of them, and takes the nearer one on the first grid where one of them reads
back.  `shortest` writes the digits, positionally for exponents from -4 to 15
and otherwise with an exponent of at least two digits.

Design notes: everything is exact arithmetic on natural numbers.  If no grid of
seventeen digits or less had a hit, the value itself would be written out, so
`select` always returns a decimal that reads back.
-/
import Chip8.Decimal.Binary

namespace Chip8.Decimal

/-- A decimal number `digits * 10 ^ exponent`. -/
structure Scaled where
  digits : Nat
  exponent : Int
deriving DecidableEq, Repr

/-- Compares `a * 10 ^ i` with `n * 2 ^ j`. -/
def compareScaled (a : Nat) (i : Int) (n : Nat) (j : Int) : Ordering :=
  compare (a * Nat.pow 10 i.toNat * Nat.pow 2 (-j).toNat)
    (n * Nat.pow 2 j.toNat * Nat.pow 10 (-i).toNat)

/-- Whether a decimal lies among the reals that round to a magnitude.  The ends
of that interval are halfway to the neighbours, and belong to it exactly when
the significand is even. -/
def Binary.readsBack (b : Binary) (d : Scaled) : Bool :=
  let low := if b.narrowBelow then 4 * b.m - 1 else 4 * b.m - 2
  let closed := b.m % 2 = 0
  let atLow := compareScaled d.digits d.exponent low (b.q - 2)
  let atHigh := compareScaled d.digits d.exponent (4 * b.m + 2) (b.q - 2)
  (atLow = .gt || (closed && atLow = .eq)) && (atHigh = .lt || (closed && atHigh = .eq))

/-- The exponent of the leading decimal digit of a positive magnitude. -/
def Binary.leading (b : Binary) : Int :=
  let (num, den) := b.ratio
  if den ≤ num then
    ((Nat.toDigits 10 (num / den)).length : Int) - 1
  else
    let t := (Nat.toDigits 10 (den / num)).length
    if den ≤ num * Nat.pow 10 (t - 1) then 1 - (t : Int) else -t

/-- The neighbour of a magnitude on a decimal grid that reads back, the nearer
one if both do, and the even one if both are equally near. -/
def Binary.onGrid (b : Binary) (exponent : Int) : Option Scaled :=
  let (num, den) := b.ratio
  let n := num * Nat.pow 10 (-exponent).toNat
  let d := den * Nat.pow 10 exponent.toNat
  let below : Scaled := ⟨n / d, exponent⟩
  let above : Scaled := ⟨n / d + 1, exponent⟩
  match b.readsBack below, b.readsBack above with
  | true, false => some below
  | false, true => some above
  | false, false => none
  | true, true =>
    match compare (2 * n) ((2 * below.digits + 1) * d) with
    | .lt => some below
    | .gt => some above
    | .eq => some (if below.digits % 2 = 0 then below else above)

/-- Moves the factors of ten of the digits into the exponent. -/
def Scaled.strip (d : Scaled) : Scaled :=
  if h : 0 < d.digits ∧ d.digits % 10 = 0 then
    Scaled.strip ⟨d.digits / 10, d.exponent + 1⟩
  else d
  termination_by d.digits
  decreasing_by omega

/-- The decimal with the fewest digits that reads back to a positive magnitude. -/
def Binary.select (b : Binary) : Scaled :=
  let top := b.leading
  let grid := (List.range 17).findSome? fun (k : Nat) => b.onGrid (top - k)
  (grid.getD ⟨b.m * Nat.pow 2 b.q.toNat * Nat.pow 5 (-b.q).toNat, min b.q 0⟩).strip

/-- Lays out digits whose leading digit has a given exponent. -/
def layOut (digits : List Char) (leading : Int) : List Char :=
  if -4 ≤ leading ∧ leading < 16 then
    if leading < 0 then
      '0' :: '.' :: List.replicate (-leading - 1).toNat '0' ++ digits
    else
      let places := leading.toNat + 1
      let whole := digits.take places ++ List.replicate (places - digits.length) '0'
      let rest := digits.drop places
      whole ++ '.' :: (if rest.isEmpty then ['0'] else rest)
  else
    let point := if digits.length ≤ 1 then [] else '.' :: digits.drop 1
    let exponent := Nat.toDigits 10 leading.natAbs
    digits.take 1 ++ point ++ 'e' :: (if leading < 0 then '-' else '+')
      :: List.replicate (2 - exponent.length) '0' ++ exponent

/-- The shortest text that reads back to a float. -/
def shortest (x : Float) : String :=
  if x.isFinite then
    let sign := if isNegative x then ['-'] else []
    let b := Binary.ofFloat x
    if b.m = 0 then String.ofList (sign ++ layOut ['0'] 0)
    else
      let d := b.select
      let digits := Nat.toDigits 10 d.digits
      String.ofList (sign ++ layOut digits (d.exponent + digits.length - 1))
  else
    nonFiniteText x

end Chip8.Decimal
