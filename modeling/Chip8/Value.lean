/-
Values that documents hold and callers give.

A value is a single one, such as a number or a text, or a collection of others.
The keys of a mapping are values too; where a key has to be shown, `keyText?` is
its text.

* `sameKey_text` — two texts are the same key exactly when they are equal.
-/
import Chip8.Decimal.Shortest
import Chip8.Text.Hex

namespace Chip8

/-- A value. -/
inductive Value where
  | null
  | bool (b : Bool)
  | integer (n : Int)
  | float (x : Float)
  | text (s : String)
  | bytes (bytes : List UInt8)
  | list (items : List Value)
  /-- Entries in order. -/
  | mapping (entries : List (Value × Value))
  | set (members : List Value)
  /-- A date or a time, as it is written. -/
  | moment (s : String)

namespace Value

/-! ### Texts -/

/-- The word for a truth value. -/
def boolText (b : Bool) : String := if b then "True" else "False"

/-- A single value as a text. -/
def toText? : Value → Option String
  | bool b => some (boolText b)
  | integer n => some n.repr
  | float x => some (Decimal.shortest x)
  | text s => some s
  | _ => none

/-- The character of a byte between quotes. -/
def byteText (quote : Char) (b : UInt8) : List Char :=
  let n := b.toNat
  let c := Char.ofNat n
  if c = quote ∨ c = '\\' then ['\\', c]
  else if c = '\t' then ['\\', 't']
  else if c = '\n' then ['\\', 'n']
  else if c = '\r' then ['\\', 'r']
  else if 0x20 ≤ n ∧ n < 0x7F then [c]
  else ['\\', 'x', (Text.hexDigit (n / 16)).toLower, (Text.hexDigit (n % 16)).toLower]

/-- Bytes between quotes: single ones, unless there are single quotes and no
double ones among the bytes. -/
def bytesText (bytes : List UInt8) : String :=
  let quote := if bytes.contains 0x27 && !bytes.contains 0x22 then '"' else '\''
  String.ofList ('b' :: quote :: bytes.flatMap (byteText quote) ++ [quote])

/-- The text of a key; only single values are keys that can be shown. -/
def keyText? : Value → Option String
  | bytes b => some (bytesText b)
  | value => value.toText?

/-- Whether a value counts as nothing: zero, false, or empty. -/
def isNothing : Value → Bool
  | null => true
  | bool b => !b
  | integer n => n = 0
  | float x => x == 0.0
  | text s => s.isEmpty
  | bytes b => b.isEmpty
  | list items => items.isEmpty
  | mapping entries => entries.isEmpty
  | set members => members.isEmpty
  | moment _ => false

/-! ### Mappings -/

/-- Whether two values are the same key.  As keys, truth values are numbers. -/
def sameKey : Value → Value → Bool
  | null, null => true
  | bool a, bool b => a = b
  | bool a, integer n => a.toInt = n
  | integer n, bool b => n = b.toInt
  | integer m, integer n => m = n
  | float x, float y => x == y
  | text s, text t => s = t
  | bytes b, bytes c => b = c
  | moment s, moment t => s = t
  | _, _ => false

/-- Puts an entry into a mapping: in the place of an entry with the same key, or
else at the end. -/
def put (entries : List (Value × Value)) (key value : Value) : List (Value × Value) :=
  if entries.any fun (k, _) => k.sameKey key then
    entries.map fun (k, v) => if k.sameKey key then (k, value) else (k, v)
  else entries ++ [(key, value)]

@[simp] theorem sameKey_text (s t : String) : (text s).sameKey (text t) = true ↔ s = t := by
  simp [sameKey]

end Value

end Chip8
