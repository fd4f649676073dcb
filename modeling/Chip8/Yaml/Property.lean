/-
Names, tags and directives of YAML texts.

Anchors and aliases are names behind a mark.  A tag is an address between angle
brackets, or a handle that abbreviates the start of an address, and the rest of
it.  Directives stand in front of a document and declare handles.
-/
import Chip8.Yaml.Cursor

namespace Chip8.Yaml

/-- The value of a hexadecimal digit in either case. -/
def hexValue? (c : Char) : Option Nat :=
  if '0' ≤ c ∧ c ≤ '9' then some (c.toNat - 0x30)
  else if 'a' ≤ c ∧ c ≤ 'f' then some (c.toNat - 0x57)
  else if 'A' ≤ c ∧ c ≤ 'F' then some (c.toNat - 0x37)
  else none

/-- What a line that starts with a percent sign declares. -/
inductive Directive where
  | version (major minor : Nat)
  | handle (handle stem : String)
deriving DecidableEq, Repr

/-- A tag as it is written: the handle, unless the address is written in full, and
the rest. -/
structure TagText where
  handle : Option String
  suffix : String
deriving DecidableEq, Repr

namespace Cursor

/-! ### Names -/

/-- Whether a character may stand in a name. -/
def isNameChar (c : Char) : Bool :=
  ('0' ≤ c && c ≤ '9') || ('a' ≤ c && c ≤ 'z') || ('A' ≤ c && c ≤ 'Z') || c = '-' || c = '_'

/-- A name of one character or more. -/
def name (c : Cursor) : Except Error (String × Cursor) :=
  let (run, c) := c.span isNameChar
  if run.isEmpty then .error .token else .ok (String.ofList run, c)

/-- The name behind the mark of an anchor or an alias. -/
def markedName (c : Cursor) : Except Error (String × Cursor) := do
  let (text, c) ← c.next.name
  if isGapOrEnd (c.peek 0) || "?:,]\x7d%@\x60".toList.contains (c.peek 0) then return (text, c)
  else throw .token

/-! ### Addresses -/

/-- Whether a character may stand in an address; brackets and commas only in one
that cannot be mistaken for an item of a collection. -/
def isAddressChar (brackets : Bool) (c : Char) : Bool :=
  isNameChar c || ";/?:@&=+$.%!~*'()".toList.contains c || (brackets && ",[]".toList.contains c)

/-- The byte of an escape, and the text behind it. -/
def escapedByte? : List Char → Option (Nat × List Char)
  | '%' :: a :: b :: rest => do
    let high ← hexValue? a
    let low ← hexValue? b
    return (16 * high + low, rest)
  | _ => none

/-- How many bytes follow the first one of a character. -/
def followers? (first : Nat) : Option Nat :=
  if first < 0x80 then some 0
  else if first / 0x20 = 6 then some 1
  else if first / 0x10 = 14 then some 2
  else if first / 0x08 = 30 then some 3
  else none

/-- The bytes of an escaped character behind its first byte. -/
def followingBytes? : Nat → List Char → Option (List UInt8 × List Char)
  | 0, cs => some ([], cs)
  | n + 1, cs => do
    let (b, cs) ← escapedByte? cs
    if b / 0x40 ≠ 2 then none
    else
      let (more, cs) ← followingBytes? n cs
      return (UInt8.ofNat b :: more, cs)

/-- The bytes of an address of at most so many characters, with its escapes
resolved. -/
def addressBytes : Nat → List Char → Option (List UInt8)
  | _, [] => some []
  | 0, _ => none
  | fuel + 1, c :: rest =>
    if c = '%' then do
      let (first, cs) ← escapedByte? (c :: rest)
      let (more, cs) ← followingBytes? (← followers? first) cs
      return UInt8.ofNat first :: more ++ (← addressBytes fuel cs)
    else do return UInt8.ofNat c.toNat :: (← addressBytes fuel rest)

/-- The address that starts with given characters and goes on here.  A byte zero
ends it. -/
def address (brackets : Bool) (start : List Char) (c : Cursor) :
    Except Error (String × Cursor) := do
  let (run, c) := c.span (isAddressChar brackets)
  let some bytes := addressBytes run.length run | throw .token
  let bytes := (start.map fun ch => UInt8.ofNat ch.toNat) ++ bytes
  match String.fromUTF8? (ByteArray.mk (bytes.takeWhile (· ≠ 0)).toArray) with
  | some text => return (text, c)
  | none => throw .encoding

/-- An address that is not empty. -/
def someAddress (brackets : Bool) (c : Cursor) : Except Error (String × Cursor) :=
  if isAddressChar brackets (c.peek 0) then c.address brackets [] else .error .token

/-! ### Tags -/

/-- The mark of a tag with the name behind it, and with a second mark if one
follows. -/
def tagMark (c : Cursor) : List Char × Cursor :=
  let (run, after) := c.next.span isNameChar
  if after.peek 0 = '!' then ('!' :: run ++ ['!'], after.next) else ('!' :: run, after)

/-- Whether a mark is a handle: it has a second mark at its end. -/
def isHandle (mark : List Char) : Bool :=
  1 < mark.length && mark.getLast? = some '!'

/-- A tag.  In a flow collection a comma may follow it directly. -/
def tag (inFlow : Bool) (c : Cursor) : Except Error (TagText × Cursor) := do
  let (tag, c) ←
    if c.peek 1 = '<' then do
      let (suffix, c) ← (c.forward 2).someAddress true
      if c.peek 0 ≠ '>' then throw .token
      pure (TagText.mk none suffix, c.next)
    else
      let (mark, c) := c.tagMark
      if isHandle mark then do
        let (suffix, c) ← c.someAddress false
        pure (TagText.mk (some (String.ofList mark)) suffix, c)
      else do
        let (suffix, c) ← c.address false (mark.drop 1)
        pure (if suffix.isEmpty then ⟨none, "!"⟩ else ⟨some "!", suffix⟩, c)
  if isGapOrEnd (c.peek 0) || (inFlow && c.peek 0 = ',') then return (tag, c)
  else throw .token

/-! ### Directives -/

/-- A number of a version, of nine digits at most. -/
def versionNumber (c : Cursor) : Except Error (Nat × Cursor) :=
  let (run, c) := c.span fun ch => '0' ≤ ch && ch ≤ '9'
  if run.isEmpty || 9 < run.length then .error .token
  else .ok (run.foldl (fun n d => 10 * n + (d.toNat - 0x30)) 0, c)

/-- A directive, which fills its line. -/
def directive (c : Cursor) : Except Error (Directive × Cursor) := do
  let (word, c) ← c.next.name
  if !isGapOrEnd (c.peek 0) then throw .token
  let c := c.skip isGap
  match word with
  | "YAML" =>
    let (major, c) ← c.versionNumber
    if c.peek 0 ≠ '.' then throw .token
    let (minor, c) ← c.next.versionNumber
    return (.version major minor, ← c.restOfLine)
  | "TAG" =>
    if c.peek 0 ≠ '!' then throw .token
    let (mark, c) := c.tagMark
    if 1 < mark.length && !isHandle mark then throw .token
    if !isGap (c.peek 0) then throw .token
    let (stem, c) ← (c.skip isGap).someAddress true
    if !isGapOrEnd (c.peek 0) then throw .token
    return (.handle (String.ofList mark) stem, ← c.restOfLine)
  | _ => throw .token

end Cursor

end Chip8.Yaml
