/-
Reading integers in any base.

A numeral is a sign, if any, and digits.  Decimal digits may be those of any
script, and letters of either case stand for the digits from ten on.  Single
underscores may stand between digits, and blanks around the whole.  In the bases
two, eight and sixteen a zero with the letter of the base may come in front of
the digits.  A numeral of more than `digitLimit` digits is refused, unless its
base is a power of two.
-/
import Chip8.Text.Blank
import Chip8.Text.DecimalDigit

namespace Chip8.Text

/-- The largest number of digits of a numeral, and of a number that is written
out. -/
def digitLimit : Nat := 4300

/-- The value of a letter as a digit: ten for the first one, in either case. -/
def letterValue? (c : Char) : Option Nat :=
  if 'a' ≤ c ∧ c ≤ 'z' then some (c.toNat - 0x57)
  else if 'A' ≤ c ∧ c ≤ 'Z' then some (c.toNat - 0x37)
  else none

/-- The value of a digit in a base. -/
def digitIn? (base : Nat) (c : Char) : Option Nat :=
  ((digitValue? c).or (letterValue? c)).filter (· < base)

/-- The letter that names a base. -/
def baseLetter? : Nat → Option Char
  | 2 => some 'b'
  | 8 => some 'o'
  | 16 => some 'x'
  | _ => none

/-- A numeral without the zero and the letter that name its base, and without an
underscore behind them. -/
def dropBase (base : Nat) : List Char → List Char
  | '0' :: c :: rest =>
    if baseLetter? base = some c.toLower then
      match rest with
      | '_' :: rest => rest
      | rest => rest
    else '0' :: c :: rest
  | cs => cs

/-- Reads digits with single underscores between them, after a first digit. -/
def readDigits (base value : Nat) : List Char → Option Nat
  | [] => some value
  | '_' :: c :: rest => (digitIn? base c).bind fun d => readDigits base (base * value + d) rest
  | c :: rest => (digitIn? base c).bind fun d => readDigits base (base * value + d) rest

/-- Reads a numeral without a sign. -/
def readNatural? (base : Nat) (cs : List Char) : Option Nat :=
  match dropBase base cs with
  | [] => none
  | c :: rest =>
    if (baseLetter? base).isNone && digitLimit < ((c :: rest).filter (· ≠ '_')).length then none
    else (digitIn? base c).bind fun d => readDigits base d rest

/-- Reads an integer in a base. -/
def readIntegerIn? (base : Nat) (cs : List Char) : Option Int :=
  match trim cs with
  | '-' :: digits => (readNatural? base digits).map fun n => -(n : Int)
  | '+' :: digits => (readNatural? base digits).map Int.ofNat
  | digits => (readNatural? base digits).map Int.ofNat

/-- Reads a decimal integer. -/
def readInteger? (s : String) : Option Int :=
  readIntegerIn? 10 s.toList

end Chip8.Text
