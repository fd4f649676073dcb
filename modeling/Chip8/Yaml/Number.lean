/-
The numbers and truth values of YAML scalars.

A scalar that is marked as a number may be spelled in more ways than a plain
scalar that counts as one.  Underscores never count, and a text with colons is
in base sixty.

* Integers: a leading zero marks an octal one, `0b` a binary and `0x` a
  hexadecimal one.
* Floats: infinity and what is no number may have a point in front.

Design notes: a sign in front is taken off first, so a number may come with two
of them.
-/
import Chip8.Decimal.Numeral
import Chip8.Yaml.Plain

namespace Chip8.Yaml.Plain

/-- The parts of a text between colons. -/
def sixtieths (cs : List Char) : List (List Char) :=
  cs.foldr (fun c parts =>
    match c, parts with
    | ':', _ => [] :: parts
    | c, part :: parts => (c :: part) :: parts
    | c, [] => [[c]]) [[]]

/-- An integer in a base. -/
def integerIn (base : Nat) (cs : List Char) : Except Error Int :=
  match Text.readIntegerIn? base cs with
  | some n => .ok n
  | none => .error .number

/-- The integer that a text without underscores and without its sign stands for. -/
def magnitude : List Char → Except Error Int
  | [] => .error .noNumber
  | ['0'] => .ok 0
  | '0' :: 'b' :: ds => integerIn 2 ds
  | '0' :: 'x' :: ds => integerIn 16 ds
  | '0' :: ds => integerIn 8 ('0' :: ds)
  | ds => do
    let parts ← (sixtieths ds).mapM (integerIn 10)
    return parts.foldl (fun n d => 60 * n + d) 0

/-- The integer that a text stands for. -/
def readInteger (cs : List Char) : Except Error Int := do
  let cs := cs.filter (· ≠ '_')
  let n ← magnitude (unsigned cs)
  return if cs.head? = some '-' then -n else n

/-- A float. -/
def floatOf (cs : List Char) : Except Error Float :=
  match Decimal.readFloat? cs with
  | some x => .ok x
  | none => .error .number

/-- The sum of parts of which each counts sixty times as much as the next.  The
last part is added first. -/
def sumSixtieths (parts : List Float) : Float :=
  (parts.foldr (fun d (sum, base) =>
    (sum + d * Decimal.nearest false base 0, 60 * base)) (0.0, 1)).1

/-- The float that a text stands for. -/
def readFloat (cs : List Char) : Except Error Float := do
  let cs := (cs.filter (· ≠ '_')).map Char.toLower
  if cs.isEmpty then throw .noNumber
  let body := unsigned cs
  let x ←
    if body = ".inf".toList then pure Decimal.infinity
    else if body = ".nan".toList then pure Decimal.notANumber
    else if body.contains ':' then do
      let parts ← (sixtieths body).mapM floatOf
      pure (sumSixtieths parts)
    else floatOf body
  return if cs.head? = some '-' then -x else x

/-- The truth value that a word stands for, in letters of any case. -/
def readBool (word : String) : Except Error Bool :=
  let word := word.map Char.toLower
  if ["yes", "true", "on"].contains word then .ok true
  else if ["no", "false", "off"].contains word then .ok false
  else .error .word

end Chip8.Yaml.Plain
