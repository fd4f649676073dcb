/-
The scalars of YAML: plain, quoted and block text.

Each reader starts at the first character of a scalar and returns its text with
the place behind it.  Lines are folded as the format prescribes: a single line
break becomes a space, and of several breaks all but the first remain.  Tabs may
stand inside lines, but not where the indentation of a line is expected.

Design notes: each round of a loop reads at least one character, so the number
of characters left bounds the rounds.
-/
import Chip8.Yaml.Property

namespace Chip8.Yaml

/-! ### Folding -/

/-- What a line break becomes with the breaks of the empty lines behind it. -/
def fold (one breaks : List Char) : List Char :=
  if one ≠ ['\n'] then one ++ breaks
  else if breaks.isEmpty then [' ']
  else breaks

/-! ### Quoted scalars -/

/-- The characters that a letter behind a backslash stands for. -/
def escapes : List (Char × Char) := [
  ('0', '\x00'), ('a', '\x07'), ('b', '\x08'), ('t', '\x09'), ('\t', '\x09'), ('n', '\x0A'),
  ('v', '\x0B'), ('f', '\x0C'), ('r', '\x0D'), ('e', '\x1B'), (' ', ' '), ('"', '"'),
  ('\\', '\\'), ('/', '/'), ('N', '\u0085'), ('_', '\u00A0'), ('L', '\u2028'), ('P', '\u2029')]

/-- The number of hexadecimal digits behind a backslash and a letter. -/
def escapeWidth? : Char → Option Nat
  | 'x' => some 2
  | 'u' => some 4
  | 'U' => some 8
  | _ => none

/-- The number written by so many hexadecimal digits. -/
def escapeCode (c : Cursor) (width : Nat) : Except Error Nat :=
  let digits := (List.range width).mapM fun k => hexValue? (c.peek k)
  match digits with
  | some ds => .ok (ds.foldl (fun n d => 16 * n + d) 0)
  | none => .error .token

/-- The breaks of the empty lines ahead; the first line ahead that is not empty
must not be a document mark. -/
def quotedBreaks : Nat → Cursor → Except Error (List Char × Cursor)
  | 0, c => .ok ([], c)
  | fuel + 1, c =>
    if c.isSeparator then .error .token
    else
      let c := c.skip isGap
      if isBreak (c.peek 0) then do
        let (one, c) := c.lineBreak
        let (more, c) ← quotedBreaks fuel c
        return (one ++ more, c)
      else .ok ([], c)

/-- The blank stretch of a quoted scalar: kept inside a line, folded across
lines. -/
def quotedBlanks (c : Cursor) : Except Error (List Char × Cursor) := do
  let (blanks, c) := c.span isGap
  if c.atEnd then throw .token
  else if isBreak (c.peek 0) then
    let (one, c) := c.lineBreak
    let (breaks, c) ← quotedBreaks c.rest.length c
    return (fold one breaks, c)
  else
    return (blanks, c)

/-- The stretch of a quoted scalar up to the next blank or the closing quote. -/
def quotedText (double : Bool) : Nat → List Char → Cursor → Except Error (List Char × Cursor)
  | 0, text, c => .ok (text, c)
  | fuel + 1, text, c =>
    let (run, c) := c.span fun ch =>
      !(isGapOrEnd ch || ch = '\'' || ch = '"' || ch = '\\')
    let text := text ++ run
    let ch := c.peek 0
    if !double && ch = '\'' && c.peek 1 = '\'' then
      quotedText double fuel (text ++ ['\'']) (c.forward 2)
    else if (double && ch = '\'') || (!double && (ch = '"' || ch = '\\')) then
      quotedText double fuel (text ++ [ch]) c.next
    else if double && ch = '\\' then
      let c := c.next
      let ch := c.peek 0
      match escapes.lookup ch, escapeWidth? ch with
      | some meant, _ => quotedText double fuel (text ++ [meant]) c.next
      | none, some width => do
        let code ← escapeCode c.next width
        if !code.isValidChar then throw .token
        quotedText double fuel (text ++ [Char.ofNat code]) (c.next.forward width)
      | none, none =>
        if isBreak ch then do
          let (breaks, c) ← quotedBreaks c.rest.length c.lineBreak.2
          quotedText double fuel (text ++ breaks) c
        else .error .token
    else .ok (text, c)

/-- The stretches of a quoted scalar up to the closing quote. -/
def quotedParts (double : Bool) : Nat → List Char → Cursor → Except Error (List Char × Cursor)
  | 0, _, _ => .error .token
  | fuel + 1, text, c => do
    let (text, c) ← quotedText double (c.rest.length + 1) text c
    if c.peek 0 = (if double then '"' else '\'') then return (text, c.next)
    let (blanks, c) ← quotedBlanks c
    quotedParts double fuel (text ++ blanks) c

/-- A quoted scalar. -/
def quotedScalar (double : Bool) (c : Cursor) : Except Error (List Char × Cursor) :=
  quotedParts double (c.rest.length + 1) [] c.next

/-! ### Plain scalars -/

/-- The characters up to the end of a stretch of a plain scalar.  In a flow
collection a colon may not stand in front of a bracket, a comma or a question
mark. -/
def plainRun (inFlow : Bool) : List Char → Except Error (List Char)
  | [] => .ok []
  | ch :: rest =>
    let follower := rest.headD endMark
    if isGapOrEnd ch then .ok []
    else if inFlow && ch = ':' && ",?[]\x7b\x7d".toList.contains follower then .error .token
    else if (ch = ':' && isGapOrEnd follower) || (inFlow && ",[]\x7b\x7d".toList.contains ch) then
      .ok []
    else (plainRun inFlow rest).map (ch :: ·)

/-- The breaks of the empty lines behind a line of a plain scalar, up to the next
character.  No tab may stand where the indentation is expected. -/
def plainBreaks (indent : Nat) : Nat → Cursor → Except Error (List Char × Cursor)
  | 0, c => .ok ([], c)
  | fuel + 1, c =>
    let (blanks, c) := c.span isGap
    if (blanks.take indent).contains '\t' then .error .token
    else if isBreak (c.peek 0) then do
      let (one, c) := c.lineBreak
      let (more, c) ← plainBreaks indent fuel c
      return (one ++ more, c)
    else .ok ([], c)

/-- The blank stretch of a plain scalar, and whether it crosses a line. -/
def plainBlanks (indent : Nat) (c : Cursor) : Except Error (List Char × Bool × Cursor) := do
  let (blanks, c) := c.span isGap
  if isBreak (c.peek 0) then
    let (one, c) := c.lineBreak
    let (breaks, c) ← plainBreaks indent (c.rest.length + 1) c
    return (fold one breaks, true, c)
  else return (blanks, false, c)

/-- The stretches of a plain scalar whose lines are indented by `indent` at
least, behind a text and the blank stretch after it.  The flag tells whether that
stretch crosses a line; a key may follow if it does. -/
def plainParts (inFlow : Bool) (indent : Nat) :
    Nat → List Char → List Char → Bool → Cursor → Except Error (List Char × Bool × Cursor)
  | 0, text, _, crossed, c => .ok (text, crossed, c)
  | fuel + 1, text, blanks, crossed, c => do
    if (c.column = 0 && c.isSeparator) || c.peek 0 = '#' then return (text, crossed, c)
    let run ← plainRun inFlow c.rest
    if run.isEmpty then return (text, crossed, c)
    let text := text ++ blanks ++ run
    let c := c.forward run.length
    if !(isGap (c.peek 0) || isBreak (c.peek 0)) then return (text, false, c)
    let (blanks, crossed, c) ← plainBlanks indent c
    if !inFlow && c.column < indent then return (text, crossed, c)
    plainParts inFlow indent fuel text blanks crossed c

/-- A plain scalar inside a block of some indentation, with a flag that tells
whether a key may follow. -/
def plainScalar (inFlow : Bool) (outer : Int) (c : Cursor) :
    Except Error (List Char × Bool × Cursor) :=
  plainParts inFlow (outer + 1).toNat (c.rest.length + 1) [] [] false c

/-! ### Block scalars -/

/-- What is done with the breaks at the end of a block scalar. -/
inductive Chomping where
  | clip
  | strip
  | keep
deriving DecidableEq, Repr

/-- The sign and the digit behind the mark of a block scalar, in either order. -/
def blockHeader (c : Cursor) : Except Error (Chomping × Option Nat × Cursor) :=
  let sign? (c : Cursor) : Option Chomping × Cursor :=
    match c.peek 0 with
    | '+' => (some .keep, c.next)
    | '-' => (some .strip, c.next)
    | _ => (none, c)
  let digit? (c : Cursor) : Option Nat × Cursor :=
    let ch := c.peek 0
    if '0' ≤ ch ∧ ch ≤ '9' then (some (ch.toNat - 0x30), c.next) else (none, c)
  let (sign, digit, c) :=
    match sign? c with
    | (some chomping, c) => let (digit, c) := digit? c; (some chomping, digit, c)
    | (none, c) =>
      match digit? c with
      | (some 0, c) => (none, some 0, c)
      | (some d, c) => let (sign, c) := sign? c; (sign, some d, c)
      | (none, c) => (none, none, c)
  if digit = some 0 then .error .token
  else .ok (sign.getD .clip, digit, c)

/-- Past the spaces up to a column.  No tab may stand in front of it. -/
def skipIndent (indent : Nat) (c : Cursor) : Except Error Cursor :=
  let c := c.forward (min (indent - c.column) (c.rest.takeWhile (· = ' ')).length)
  if c.column < indent && c.peek 0 = '\t' then .error .token else .ok c

/-- The breaks of the empty lines ahead, and the place where the next line starts
in the given column or before it. -/
def blockBreaks (indent : Nat) : Nat → Cursor → Except Error (List Char × Cursor)
  | 0, c => do return ([], ← skipIndent indent c)
  | fuel + 1, c => do
    let c ← skipIndent indent c
    if isBreak (c.peek 0) then
      let (one, c) := c.lineBreak
      let (more, c) ← blockBreaks indent fuel c
      return (one ++ more, c)
    else return ([], c)

/-- The breaks of the empty lines ahead, and the largest column among them and
the first line that is not empty.  No tab may stand in front of that column. -/
def blockIndent : Nat → Nat → Cursor → Except Error (List Char × Nat × Cursor)
  | 0, widest, c => .ok ([], widest, c)
  | fuel + 1, widest, c =>
    let c := c.skip (· = ' ')
    let widest := max widest c.column
    if c.peek 0 = '\t' then .error .token
    else if isBreak (c.peek 0) then do
      let (one, c) := c.lineBreak
      let (more, widest, c) ← blockIndent fuel widest c
      return (one ++ more, widest, c)
    else .ok ([], widest, c)

/-- The lines of a block scalar: its text without the last break, that break, and
the breaks of the empty lines behind it. -/
def blockLines (folded : Bool) (indent : Nat) :
    Nat → List Char → List Char → List Char → Cursor →
      Except Error (List Char × List Char × List Char × Cursor)
  | 0, text, last, breaks, c => .ok (text, last, breaks, c)
  | fuel + 1, text, last, breaks, c => do
    if c.column = indent && !c.atEnd then
      let startsWithText := !isGap (c.peek 0)
      let (line, c) := c.span (!isBreak ·)
      let text := text ++ breaks ++ line
      let (last, c) := c.lineBreak
      let (breaks, c) ← blockBreaks indent c.rest.length c
      if c.column = indent && !c.atEnd then
        let folds := folded && last = ['\n'] && startsWithText && !isGap (c.peek 0)
        let joint := if folds then (if breaks.isEmpty then [' '] else []) else last
        blockLines folded indent fuel (text ++ joint) last breaks c
      else return (text, last, breaks, c)
    else return (text, last, breaks, c)

/-- A block scalar inside a block of some indentation. -/
def blockScalar (folded : Bool) (outer : Int) (c : Cursor) :
    Except Error (List Char × Cursor) := do
  let (chomping, increment, c) ← blockHeader c.next
  let c ← c.restOfLine
  let (breaks, indent, c) ←
    match increment with
    | none => do
      let (breaks, widest, c) ← blockIndent (c.rest.length + 1) 0 c
      pure (breaks, max (max widest (outer + 1).toNat) 1, c)
    | some d => do
      let indent := outer.toNat + d
      let (breaks, c) ← blockBreaks indent c.rest.length c
      pure (breaks, indent, c)
  let (text, last, breaks, c) ← blockLines folded indent (c.rest.length + 1) [] [] breaks c
  match chomping with
  | .strip => return (text, c)
  | .clip => return (text ++ last, c)
  | .keep => return (text ++ last ++ breaks, c)

end Chip8.Yaml
