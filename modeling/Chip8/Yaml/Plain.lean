/-
What plain scalars stand for.

A scalar without quotes and without a tag is a truth value, a number, nothing, or
else text, by its spelling alone.  `Tag.ofPlain` decides which.

* Truth values are the words `yes`, `no`, `true`, `false`, `on` and `off`, small,
  capital or with a capital first letter.
* Integers may be binary, octal, hexadecimal or in base sixty, and may contain
  underscores.
* Floats need a point or an exponent; they too may be in base sixty.  An exponent
  without a sign may only stand behind digits that underscores divide properly.
-/
import Chip8.Yaml.Property

namespace Chip8.Yaml

/-- The kind of a node. -/
inductive Tag where
  | null
  | bool
  | int
  | float
  | str
  | bytes
  | moment
  | seq
  | map
  | set
  /-- A sequence of mappings with one entry each. -/
  | pairs
  /-- The key that merges other mappings. -/
  | merge
  /-- The key that holds a default value. -/
  | default
  | other (address : String)
deriving DecidableEq, Repr

/-- The address that the kinds of the format have in common. -/
def Tag.stem : String := "tag:yaml.org,2002:"

/-- The kind with an address. -/
def Tag.ofAddress (address : String) : Tag :=
  let known : List (String × Tag) := [
    ("null", .null), ("bool", .bool), ("int", .int), ("float", .float), ("str", .str),
    ("binary", .bytes), ("timestamp", .moment), ("seq", .seq), ("map", .map), ("set", .set),
    ("omap", .pairs), ("pairs", .pairs), ("merge", .merge), ("value", .default)]
  match known.find? fun (name, _) => stem ++ name = address with
  | some (_, tag) => tag
  | none => .other address

namespace Plain

/-- A word in small letters, with a capital first letter, and in capitals. -/
def spellings (word : String) : List String :=
  [word, word.capitalize, word.map Char.toUpper]

/-- The words that stand for truth. -/
def trueWords : List String := ["yes", "true", "on"].flatMap spellings

/-- The words that stand for falsity. -/
def falseWords : List String := ["no", "false", "off"].flatMap spellings

/-- The spellings of nothing. -/
def nullWords : List String := ["", "~"] ++ spellings "null"

/-- The spellings of infinity, without a sign. -/
def infinityWords : List String := [".inf", ".Inf", ".INF"]

/-- The spellings of what is no number. -/
def nanWords : List String := [".nan", ".NaN", ".NAN"]

def isDigit (c : Char) : Bool := '0' ≤ c && c ≤ '9'

def isDigitOrGap (c : Char) : Bool := isDigit c || c = '_'

/-- A text without its sign. -/
def unsigned : List Char → List Char
  | '+' :: rest => rest
  | '-' :: rest => rest
  | cs => cs

/-- Whether a text is a non-empty list of sixties: colons, each with one digit or
with two of which the first is at most five. -/
def isSixties : List Char → Bool
  | ':' :: a :: b :: rest =>
    if '0' ≤ a && a ≤ '5' && isDigit b then rest.isEmpty || isSixties rest
    else isDigit a && isSixties (b :: rest)
  | [':', a] => isDigit a
  | _ => false

/-- Whether a text is an exponent: a sign, which may have to be there, and
digits. -/
def isExponent (signNeeded : Bool) : List Char → Bool
  | e :: sign :: rest =>
    (e = 'e' || e = 'E') &&
      (if sign = '+' || sign = '-' then !rest.isEmpty && rest.all isDigit
       else !signNeeded && (sign :: rest).all isDigit)
  | _ => false

/-- Whether every underscore of a text stands between two digits. -/
def isDivided : List Char → Bool
  | [] => true
  | '_' :: _ => false
  | _ :: '_' :: rest => !rest.isEmpty && isDivided rest
  | _ :: rest => isDivided rest

/-- Whether a text is written like an integer. -/
def isInteger (cs : List Char) : Bool :=
  match unsigned cs with
  | '0' :: 'b' :: d :: rest => (d :: rest).all fun c => c = '0' || c = '1' || c = '_'
  | '0' :: 'x' :: d :: rest => (d :: rest).all fun c => (hexValue? c).isSome || c = '_'
  | '0' :: rest => rest.all fun c => ('0' ≤ c && c ≤ '7') || c = '_'
  | d :: rest =>
    let tail := rest.dropWhile isDigitOrGap
    isDigit d && (tail.isEmpty || isSixties tail)
  | [] => false

/-- Whether a text behind its leading digits is the rest of a float. -/
def isFloatTail (digits : List Char) : List Char → Bool
  | '.' :: places =>
    let tail := places.dropWhile isDigitOrGap
    tail.isEmpty || isExponent (!isDivided digits) tail
  | ':' :: tail =>
    let sixties := (':' :: tail).takeWhile (· ≠ '.')
    match (':' :: tail).dropWhile (· ≠ '.') with
    | '.' :: places => isSixties sixties && places.all isDigitOrGap
    | _ => false
  | tail => isDivided digits && isExponent false tail

/-- Whether a text is written like a float. -/
def isFloat (cs : List Char) : Bool :=
  if nanWords.contains (String.ofList cs) then true
  else if infinityWords.contains (String.ofList (unsigned cs)) then true
  else
    match cs with
    | '.' :: d :: rest =>
      let tail := rest.dropWhile isDigitOrGap
      isDigit d && (tail.isEmpty || isExponent true tail)
    | _ =>
      let number := unsigned cs
      (number.head?.any isDigit)
        && isFloatTail (number.takeWhile isDigitOrGap) (number.dropWhile isDigitOrGap)

/-- A text without one line break at its end, unless it is nothing else. -/
def dropBreak (cs : List Char) : List Char :=
  if 1 < cs.length && cs.getLast? = some '\n' then cs.dropLast else cs

end Plain

/-- The kind that a plain scalar has by its spelling.  A line break at the end does
not count. -/
def Tag.ofPlain (text : String) : Tag :=
  let cs := Plain.dropBreak text.toList
  let word := String.ofList cs
  if Plain.trueWords.contains word || Plain.falseWords.contains word then .bool
  else if Plain.isFloat cs then .float
  else if Plain.isInteger cs then .int
  else if word = "<<" then .merge
  else if Plain.nullWords.contains word then .null
  else if word = "=" then .default
  else .str

end Chip8.Yaml
