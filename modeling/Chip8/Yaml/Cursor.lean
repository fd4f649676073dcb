/-
A place in a YAML text, and the errors of reading one.

A `Cursor` is what is left of the text, with the line and the column reached.
Columns decide the structure of a YAML text, so every step through it keeps
them.
-/
namespace Chip8.Yaml

/-- Why a text is no document. -/
inductive Error where
  /-- A character that no text may hold. -/
  | unprintable
  /-- No token starts here, or a token is broken off. -/
  | token
  /-- The bytes that a tag is written with are no text. -/
  | encoding
  /-- The tokens do not fit together. -/
  | grammar
  /-- A name is used before it is given, or given twice, or there is a second
  document. -/
  | reference
  /-- A name stands for something that holds it, or names stand for too much. -/
  | expansion
  /-- A value does not exist: a tag is unknown or does not fit, a key is repeated,
  or a key is a collection. -/
  | value
  /-- A text is marked as a mapping. -/
  | textAsMapping
  /-- A sequence is marked as a mapping. -/
  | sequenceAsMapping
  /-- A number is spelled in an unknown way. -/
  | number
  /-- A number is empty. -/
  | noNumber
  /-- A truth value is spelled in an unknown way. -/
  | word
  /-- A date is spelled in an unknown way. -/
  | moment
  /-- There is no such day, or no such time of day. -/
  | noMoment
deriving DecidableEq, Repr

/-- The sentence that describes an error. -/
def Error.message : Error → String
  | unprintable => "a character may not stand in a document"
  | token => "no token starts here, or a token is broken off"
  | encoding => "the bytes of a tag are no text"
  | grammar => "the tokens do not fit together"
  | reference => "a name is given twice or never, or there are two documents"
  | expansion => "names go in a circle, or stand for too much"
  | value => "a tag or a key has no meaning here, or a key is repeated"
  | textAsMapping => "a text is marked as a mapping"
  | sequenceAsMapping => "a sequence is marked as a mapping"
  | number => "a number is spelled in an unknown way"
  | noNumber => "a number is empty"
  | word => "a truth value is spelled in an unknown way"
  | moment => "a date is spelled in an unknown way"
  | noMoment => "there is no such day or time"

/-- Whether a character ends a line. -/
def isBreak (c : Char) : Bool :=
  c = '\n' || c = '\r' || c = '\u0085' || c = '\u2028' || c = '\u2029'

/-- The character seen at the end of the text, which no text holds. -/
def endMark : Char := '\x00'

/-- Whether a character ends a line or the text. -/
def isEnd (c : Char) : Bool := c = endMark || isBreak c

/-- Whether a character is a space or a tab. -/
def isGap (c : Char) : Bool := c = ' ' || c = '\t'

/-- Whether a character ends a line or the text, or is a space or a tab. -/
def isGapOrEnd (c : Char) : Bool := isGap c || isEnd c

/-- A place in a text. -/
structure Cursor where
  /-- What is left of the text. -/
  rest : List Char
  /-- How many characters lie behind. -/
  index : Nat := 0
  line : Nat := 0
  column : Nat := 0
deriving Repr

namespace Cursor

/-- The character so many places ahead. -/
def peek (c : Cursor) (k : Nat) : Char :=
  c.rest[k]?.getD endMark

/-- One character further. -/
def next (c : Cursor) : Cursor :=
  match c.rest with
  | [] => c
  | ch :: rest =>
    let index := c.index + 1
    if isBreak ch && !(ch = '\r' && rest.head? = some '\n') then
      { rest, index, line := c.line + 1, column := 0 }
    else
      { c with rest, index, column := c.column + 1 }

/-- So many characters further. -/
def forward : Nat → Cursor → Cursor
  | 0, c => c
  | n + 1, c => forward n c.next

/-- The characters ahead that have a property, and the place after them. -/
def span (p : Char → Bool) (c : Cursor) : List Char × Cursor :=
  let run := c.rest.takeWhile p
  (run, c.forward run.length)

/-- The place after the characters ahead that have a property. -/
def skip (p : Char → Bool) (c : Cursor) : Cursor := (c.span p).2

/-- Whether the text is at its end. -/
def atEnd (c : Cursor) : Bool := c.rest.isEmpty

/-- Reads a line break, if there is one, as the break it stands for. -/
def lineBreak (c : Cursor) : List Char × Cursor :=
  match c.rest with
  | '\r' :: '\n' :: _ => (['\n'], c.forward 2)
  | ch :: _ =>
    if ch = '\r' || ch = '\n' || ch = '\u0085' then (['\n'], c.next)
    else if isBreak ch then ([ch], c.next)
    else ([], c)
  | [] => ([], c)

/-- Whether the next three characters are a mark of their own. -/
def isMark (c : Cursor) (ch : Char) : Bool :=
  c.peek 0 = ch && c.peek 1 = ch && c.peek 2 = ch && isGapOrEnd (c.peek 3)

/-- Whether a document starts or ends here. -/
def isSeparator (c : Cursor) : Bool := c.isMark '-' || c.isMark '.'

/-- Past blanks and a comment to the end of the line, which has to follow. -/
def restOfLine (c : Cursor) : Except Error Cursor :=
  let c := c.skip isGap
  let c := if c.peek 0 = '#' then c.skip (!isBreak ·) else c
  if isEnd (c.peek 0) then .ok c.lineBreak.2 else .error .token

end Cursor

end Chip8.Yaml
