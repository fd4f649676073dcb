/-
How values are converted for settings.

A setting is a truth value or a text.  Truth values may also be written as
integers, or as words in letters of any case; texts may be given as any single
value that has a text.

* `Value.toBool?_bool`, `Value.toText?_text` — a value of the right kind stays
  as it is.
-/
import Chip8.Text.Integer
import Chip8.Value

namespace Chip8.Value

/-- The words for truth. -/
def trueWords : List String := ["yes", "y", "on", "true"]

/-- The words for falsity. -/
def falseWords : List String := ["no", "n", "off", "false"]

/-- The truth value that a text stands for: an integer other than zero, or a word.
The words are ASCII, so only the case of ASCII letters matters. -/
def readBool? (s : String) : Option Bool :=
  match Text.readInteger? s with
  | some n => some (n ≠ 0)
  | none =>
    let word := s.map Char.toLower
    if trueWords.contains word then some true
    else if falseWords.contains word then some false
    else none

/-- A value as a truth value. -/
def toBool? : Value → Option Bool
  | bool b => some b
  | integer n => some (n ≠ 0)
  | text s => readBool? s
  | _ => none

/-- Whether a value is an integer with too many digits to be written out. -/
def isTooLong : Value → Bool
  | integer n => Nat.pow 10 Text.digitLimit ≤ n.natAbs
  | _ => false

@[simp] theorem toBool?_bool (b : Bool) : (bool b).toBool? = some b := rfl

@[simp] theorem toText?_text (s : String) : (text s).toText? = some s := rfl

end Chip8.Value
