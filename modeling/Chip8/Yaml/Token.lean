/-
The tokens of a YAML text.

Indentation becomes explicit tokens here: where a block opens or closes, a token
says so, and a mapping key is announced by a token in front of it even though
the colon that makes it a key comes only behind it.

* `Token.ofText` gives the tokens of a text up to its end or its first error.

Design notes: a scalar may turn out to be a key for as long as its line lasts.
Its number is kept until then, and the tokens that announce the key are put in
front of it afterwards.  An error behind such a scalar comes before everything
from the scalar on, because nobody can know yet what the scalar is.
-/
import Chip8.Yaml.Scalar

namespace Chip8.Yaml

/-- A token. -/
inductive Token where
  | directive (directive : Directive)
  | documentStart
  | documentEnd
  | streamEnd
  | blockSequenceStart
  | blockMappingStart
  | blockEnd
  | flowSequenceStart
  | flowSequenceEnd
  | flowMappingStart
  | flowMappingEnd
  | blockEntry
  | flowEntry
  | key
  | value
  | alias (name : String)
  | anchor (name : String)
  | tag (tag : TagText)
  /-- A scalar, and whether it is plain. -/
  | scalar (text : String) (plain : Bool)
deriving DecidableEq, Repr

/-- A scalar or collection that may turn out to be a mapping key. -/
structure PendingKey where
  /-- The nesting of flow collections that it belongs to. -/
  level : Nat
  /-- The number of its first token. -/
  number : Nat
  /-- Whether nothing else can stand here. -/
  required : Bool
  index : Nat
  line : Nat
  column : Nat
deriving Repr

/-- How far a text has been read. -/
structure Scanner where
  cursor : Cursor
  /-- The nesting of flow collections. -/
  flow : Nat := 0
  /-- The column of the innermost block. -/
  indent : Int := -1
  /-- The columns of the blocks around it. -/
  outer : List Int := []
  /-- Whether a key may start here. -/
  keyAllowed : Bool := true
  pending : List PendingKey := []
  tokens : Array Token := #[]
  finished : Bool := false

namespace Scanner

/-- Adds a token. -/
def push (s : Scanner) (token : Token) : Scanner :=
  { s with tokens := s.tokens.push token }

/-- Adds a token in front of another. -/
def insert (s : Scanner) (number : Nat) (token : Token) : Scanner :=
  { s with tokens := s.tokens.insertIdxIfInBounds number token }

/-! ### Keys that are pending -/

/-- Forgets the keys that can no longer be keys, because their line has ended or
they are too long. -/
def dropStale (s : Scanner) : Except Error Scanner :=
  let stale (k : PendingKey) : Bool :=
    k.line ≠ s.cursor.line || 1024 < s.cursor.index - k.index
  if s.pending.any fun k => stale k && k.required then .error .token
  else .ok { s with pending := s.pending.filter fun k => !stale k }

/-- Forgets the key that is pending at the present nesting. -/
def dropKey (s : Scanner) : Except Error Scanner :=
  if s.pending.any fun k => k.level = s.flow && k.required then .error .token
  else .ok { s with pending := s.pending.filter fun k => k.level ≠ s.flow }

/-- Notes that the next token may start a key. -/
def saveKey (s : Scanner) : Except Error Scanner :=
  if s.keyAllowed then do
    let s ← s.dropKey
    let c := s.cursor
    return { s with pending :=
      { level := s.flow
        number := s.tokens.size
        required := s.flow = 0 && s.indent = c.column
        index := c.index
        line := c.line
        column := c.column } :: s.pending }
  else .ok s

/-- How many tokens are settled: those in front of every pending key. -/
def settled (s : Scanner) : Nat :=
  s.pending.foldl (fun n k => min n k.number) s.tokens.size

/-! ### Indentation -/

/-- Closes the blocks that are indented by more than a column. -/
def unwindBlocks (column : Int) : List Int → Scanner → Scanner
  | [], s => s
  | i :: outer, s =>
    if column < s.indent then
      unwindBlocks column outer ({ s with indent := i, outer }.push .blockEnd)
    else s

/-- Closes the blocks that are indented by more than a column, outside flow
collections. -/
def unwind (s : Scanner) (column : Int) : Scanner :=
  if s.flow = 0 then unwindBlocks column s.outer s else s

/-- Opens a block at a column, unless one is open there already.  The token goes
in front of the token of a number. -/
def openBlock (s : Scanner) (column number : Nat) (token : Token) : Scanner :=
  if s.indent < column then
    { s with outer := s.indent :: s.outer, indent := column }.insert number token
  else s

/-! ### Single tokens -/

/-- Past blanks, comments and empty lines.  A key may start on a new line.  A byte
order mark may start a line, and tabs are blank where no key may start. -/
def toNextToken : Nat → Scanner → Scanner
  | 0, s => s
  | fuel + 1, s =>
    let c := s.cursor
    let c := if c.column = 0 && c.peek 0 = '\uFEFF' then c.next else c
    let tabs := 0 < s.flow || !s.keyAllowed
    let c := c.skip fun ch => ch = ' ' || (tabs && ch = '\t')
    let c := if c.peek 0 = '#' then c.skip (!isBreak ·) else c
    if isBreak (c.peek 0) then
      toNextToken fuel { s with
        cursor := c.lineBreak.2, keyAllowed := s.keyAllowed || s.flow = 0 }
    else { s with cursor := c }

/-- A mark of the document level. -/
def documentMark (s : Scanner) (token : Token) (after : Cursor) : Except Error Scanner := do
  let s ← (s.unwind (-1)).dropKey
  return { s with keyAllowed := false, cursor := after }.push token

/-- The end of the text, which also ends the last line. -/
def streamEnd (s : Scanner) : Except Error Scanner := do
  let c := s.cursor
  let cursor := if c.column = 0 then c else { c with line := c.line + 1, column := 0 }
  let s ← ({ s with cursor }.unwind (-1)).dropKey
  return { s with keyAllowed := false, finished := true }.push .streamEnd

/-- The start of a flow collection. -/
def flowStart (s : Scanner) (token : Token) : Except Error Scanner := do
  let s ← s.saveKey
  return { s with flow := s.flow + 1, keyAllowed := true, cursor := s.cursor.next }.push token

/-- The end of a flow collection. -/
def flowEnd (s : Scanner) (token : Token) : Except Error Scanner := do
  let s ← s.dropKey
  return { s with flow := s.flow - 1, keyAllowed := false, cursor := s.cursor.next }.push token

/-- A comma between the entries of a flow collection. -/
def flowEntry (s : Scanner) : Except Error Scanner := do
  let s ← { s with keyAllowed := true }.dropKey
  return { s with cursor := s.cursor.next }.push .flowEntry

/-- A dash in front of an entry, or a question mark in front of a key. -/
def entryMark (s : Scanner) (opening token : Token) (keyAllowed : Bool) :
    Except Error Scanner := do
  if s.flow = 0 && !s.keyAllowed then throw .token
  let s := if s.flow = 0 then s.openBlock s.cursor.column s.tokens.size opening else s
  let s ← { s with keyAllowed }.dropKey
  return { s with cursor := s.cursor.next }.push token

/-- A colon, which makes a key of what is pending in front of it. -/
def valueMark (s : Scanner) : Except Error Scanner := do
  let s ←
    match s.pending.find? (·.level = s.flow) with
    | some k =>
      let s := { s with pending := s.pending.filter fun k => k.level ≠ s.flow }
      let s := s.insert k.number .key
      let s := if s.flow = 0 then s.openBlock k.column k.number .blockMappingStart else s
      pure { s with keyAllowed := false }
    | none =>
      if s.flow = 0 && !s.keyAllowed then throw .token
      let s := if s.flow = 0 then
        s.openBlock s.cursor.column s.tokens.size .blockMappingStart else s
      { s with keyAllowed := s.flow = 0 }.dropKey
  return { s with cursor := s.cursor.next }.push .value

/-- Something that may be a key, read by a function. -/
def keyLike (s : Scanner) (read : Cursor → Except Error (Token × Cursor)) :
    Except Error Scanner := do
  let s ← s.saveKey
  let (token, cursor) ← read s.cursor
  return { s with keyAllowed := false, cursor }.push token

/-- A plain scalar, behind which a key may follow on a new line. -/
def plain (s : Scanner) : Except Error Scanner := do
  let s ← s.saveKey
  let (text, keyAllowed, cursor) ← plainScalar (0 < s.flow) s.indent s.cursor
  return { s with keyAllowed, cursor }.push (.scalar (String.ofList text) true)

/-- A block scalar, behind which a key may follow. -/
def block (s : Scanner) (folded : Bool) : Except Error Scanner := do
  let s ← { s with keyAllowed := true }.dropKey
  let (text, cursor) ← blockScalar folded s.indent s.cursor
  return { s with cursor }.push (.scalar (String.ofList text) false)

/-- Whether a plain scalar can start with the characters ahead. -/
def startsPlain (inFlow : Bool) (ch follower : Char) : Bool :=
  !(isGapOrEnd ch || "-?:,[]\x7b\x7d#&*!|>'\"%@\x60".toList.contains ch)
    || (ch = '-' && !isGap follower)
    || (!inFlow && (ch = '?' || ch = ':') && !isGapOrEnd follower)

/-- Reads the next token, and the tokens that it brings with it. -/
def fetch (s : Scanner) : Except Error Scanner := do
  let s := toNextToken (s.cursor.rest.length + 1) s
  let s ← s.dropStale
  let s := s.unwind s.cursor.column
  let c := s.cursor
  let ch := c.peek 0
  let gapNext := isGapOrEnd (c.peek 1)
  let inFlow := 0 < s.flow
  if c.atEnd then s.streamEnd
  else if ch = '%' && c.column = 0 then
    let (directive, after) ← c.directive
    s.documentMark (.directive directive) after
  else if c.column = 0 && c.isMark '-' then s.documentMark .documentStart (c.forward 3)
  else if c.column = 0 && c.isMark '.' then s.documentMark .documentEnd (c.forward 3)
  else if ch = '[' then s.flowStart .flowSequenceStart
  else if ch = '\x7b' then s.flowStart .flowMappingStart
  else if ch = ']' then s.flowEnd .flowSequenceEnd
  else if ch = '\x7d' then s.flowEnd .flowMappingEnd
  else if ch = ',' then s.flowEntry
  else if ch = '-' && gapNext then s.entryMark .blockSequenceStart .blockEntry true
  else if ch = '?' && (inFlow || gapNext) then s.entryMark .blockMappingStart .key (!inFlow)
  else if ch = ':' && (inFlow || gapNext) then s.valueMark
  else if ch = '*' then
    s.keyLike fun c => do let (name, c) ← c.markedName; return (.alias name, c)
  else if ch = '&' then
    s.keyLike fun c => do let (name, c) ← c.markedName; return (.anchor name, c)
  else if ch = '!' then
    s.keyLike fun c => do let (tag, c) ← c.tag inFlow; return (.tag tag, c)
  else if ch = '|' && !inFlow then s.block false
  else if ch = '>' && !inFlow then s.block true
  else if ch = '\'' || ch = '"' then
    s.keyLike fun c => do
      let (text, c) ← quotedScalar (ch = '"') c
      return (.scalar (String.ofList text) false, c)
  else if startsPlain inFlow ch (c.peek 1) then s.plain
  else throw .token

/-- Reads tokens up to the end of the text or the first error. -/
def run : Nat → Scanner → List Token × Option Error
  | 0, s => (s.tokens.toList, none)
  | fuel + 1, s =>
    match s.fetch.bind dropStale with
    | .error e => (s.tokens.toList.take s.settled, some e)
    | .ok s => if s.finished then (s.tokens.toList, none) else run fuel s

end Scanner

/-- Whether a text may hold a character. -/
def isPrintable (c : Char) : Bool :=
  let n := c.toNat
  n = 0x09 || n = 0x0A || n = 0x0D || n = 0x85 || (0x20 ≤ n && n ≤ 0x7E)
    || (0xA0 ≤ n && n ≤ 0xD7FF) || (0xE000 ≤ n && n ≤ 0xFFFD) || 0x10000 ≤ n

/-- The tokens of a text, up to its end or the first error. -/
def Token.ofText (text : String) : List Token × Option Error :=
  let chars := text.toList
  if chars.all isPrintable then
    -- A byte order mark in front of the text does not belong to its first line.
    let rest := if chars.head? = some '\uFEFF' then chars.tail else chars
    Scanner.run (chars.length + 2) { cursor := { rest } }
  else ([], some .unprintable)

end Chip8.Yaml
