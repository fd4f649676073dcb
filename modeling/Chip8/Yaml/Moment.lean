/-
Dates and times.

A date is a year of four digits, a month and a day.  A time may follow behind a
letter `T` or blanks, with a fraction of a second and the distance to the time of
the first meridian.

* `Moment.check` tells a text that is no date at all from one that names a day or
  a time that does not exist.
-/
import Chip8.Yaml.Plain

namespace Chip8.Yaml.Moment

/-- The number of days of a month. -/
def daysIn (year month : Nat) : Nat :=
  if month = 2 then
    if year % 4 = 0 ∧ (year % 100 ≠ 0 ∨ year % 400 = 0) then 29 else 28
  else if month = 4 ∨ month = 6 ∨ month = 9 ∨ month = 11 then 30
  else 31

/-- A number of so many digits, and the text behind it. -/
def digits? (count : Nat) (cs : List Char) : Option (Nat × List Char) :=
  let run := cs.take count
  if run.length = count ∧ run.all Plain.isDigit then
    some (run.foldl (fun n d => 10 * n + (d.toNat - 0x30)) 0, cs.drop count)
  else none

/-- A number of one digit or two, and the text behind it. -/
def oneOrTwo? (cs : List Char) : Option (Nat × List Char) :=
  (digits? 2 cs).or (digits? 1 cs)

/-- The text behind a character. -/
def behind? (c : Char) : List Char → Option (List Char)
  | d :: rest => if d = c then some rest else none
  | [] => none

/-- Whether a text is the distance to the first meridian, and whether that is less
than a day; a `Z` is no distance. -/
def offset? : List Char → Option Bool
  | [] => some true
  | ['Z'] => some true
  | sign :: rest =>
    if sign ≠ '+' ∧ sign ≠ '-' then none
    else do
      let (hours, rest) ← oneOrTwo? rest
      match rest with
      | [] => return hours < 24
      | ':' :: rest =>
        let (minutes, rest) ← digits? 2 rest
        if rest.isEmpty then return 60 * hours + minutes < 24 * 60 else none
      | _ => none

/-- Whether a text is a time of day, and whether there is such a time. -/
def time? (cs : List Char) : Option Bool := do
  let (hour, cs) ← oneOrTwo? cs
  let (minute, cs) ← digits? 2 (← behind? ':' cs)
  let (second, cs) ← digits? 2 (← behind? ':' cs)
  let cs := match cs with
    | '.' :: rest => rest.dropWhile Plain.isDigit
    | cs => cs
  let near ←
    if cs.isEmpty then pure true
    else
      match cs.dropWhile isGap with
      | [] => none
      | offset => offset? offset
  return hour < 24 && minute < 60 && second < 60 && near

/-- Whether a text is a date, perhaps with a time, and whether they exist. -/
def moment? (cs : List Char) : Option Bool := do
  let (year, cs) ← digits? 4 cs
  let (month, cs) ← oneOrTwo? (← behind? '-' cs)
  let (day, cs) ← oneOrTwo? (← behind? '-' cs)
  let isDay := 0 < year && 0 < month && month ≤ 12 && 0 < day && day ≤ daysIn year month
  match cs with
  | [] => return isDay
  | c :: rest =>
    let clock ←
      if c = 'T' ∨ c = 't' then some rest
      else if isGap c then some (rest.dropWhile isGap)
      else none
    return isDay && (← time? clock)

/-- Checks that a text is a date, perhaps with a time. -/
def check (s : String) : Except Error Unit :=
  match moment? (Plain.dropBreak s.toList) with
  | none => .error .moment
  | some false => .error .noMoment
  | some true => .ok ()

end Chip8.Yaml.Moment
