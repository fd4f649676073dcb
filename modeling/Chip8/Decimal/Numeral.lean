/-
Reading floats.

A numeral is a sign, if any, and a decimal or a word for infinity or for what is
no number.  A decimal has digits, of any script, on at least one side of its
point, and may have an exponent.  Blanks may stand around the whole.
-/
import Chip8.Decimal.Nearest
import Chip8.Text.Integer

namespace Chip8.Decimal

/-- Positive infinity. -/
def infinity : Float := 1.0 / 0.0

/-- What is no number. -/
def notANumber : Float := 0.0 / 0.0

/-- The digits at the start of a text, by their values, and the text behind
them. -/
def leadingDigits : List Char → List Nat × List Char
  | [] => ([], [])
  | c :: rest =>
    match Text.digitValue? c with
    | some d => let (ds, rest) := leadingDigits rest; (d :: ds, rest)
    | none => ([], c :: rest)

/-- The number with some digits. -/
def ofDigits (ds : List Nat) : Nat := ds.foldl (fun n d => 10 * n + d) 0

/-- Reads an exponent up to the end of the text; nothing at all is the exponent
zero. -/
def readExponent? : List Char → Option Int
  | [] => some 0
  | e :: rest =>
    let digits? (cs : List Char) : Option Nat :=
      match leadingDigits cs with
      | (d :: ds, []) => some (ofDigits (d :: ds))
      | _ => none
    if e ≠ 'e' ∧ e ≠ 'E' then none
    else
      match rest with
      | '-' :: cs => (digits? cs).map fun n => -(n : Int)
      | '+' :: cs => (digits? cs).map Int.ofNat
      | cs => (digits? cs).map Int.ofNat

/-- Reads a decimal without a sign. -/
def readUnsigned? (cs : List Char) : Option Float :=
  let (whole, rest) := leadingDigits cs
  let (places, rest) :=
    match rest with
    | '.' :: rest => leadingDigits rest
    | rest => ([], rest)
  if whole.isEmpty && places.isEmpty then none
  else
    (readExponent? rest).map fun exponent =>
      nearest false (ofDigits (whole ++ places)) (exponent - places.length)

/-- The float that a word stands for. -/
def ofWord? (cs : List Char) : Option Float :=
  let word := String.ofList (cs.map Char.toLower)
  if word = "inf" ∨ word = "infinity" then some infinity
  else if word = "nan" then some notANumber
  else none

/-- Reads a float. -/
def readFloat? (cs : List Char) : Option Float :=
  let magnitude? (cs : List Char) : Option Float := (ofWord? cs).or (readUnsigned? cs)
  match Text.trim cs with
  | '-' :: cs => (magnitude? cs).map fun x => -x
  | '+' :: cs => magnitude? cs
  | cs => magnitude? cs

end Chip8.Decimal
