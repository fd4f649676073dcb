/-
The console: where lines are printed and where the time comes from.

A `Clock` is a sequence of readings of which some number have been taken; each
reading is used once.  A `Console` is a clock together with what has been
printed so far, so that a computation that prints is a function from consoles
to consoles.

* `Console.text_print` — printing appends to the text.
-/
namespace Chip8.Log

/-- A clock, as the sequence of its readings in seconds. -/
structure Clock where
  /-- The readings, in order. -/
  reading : Nat → Float
  /-- How many readings have been taken. -/
  taken : Nat := 0

namespace Clock

/-- The clock that always shows the same time. -/
def stopped (now : Float) : Clock := { reading := fun _ => now }

/-- The clock with some readings, the last of which is repeated for ever; with
no readings at all it shows zero. -/
def ofList (readings : List Float) : Clock :=
  let all := readings.toArray
  { reading := fun i => all[min i (all.size - 1)]?.getD 0.0 }

/-- The next reading, and the clock after it. -/
def read (c : Clock) : Float × Clock :=
  (c.reading c.taken, { c with taken := c.taken + 1 })

end Clock

/-- A console. -/
structure Console where
  /-- Where the time comes from. -/
  clock : Clock
  /-- Whether the console is a terminal, which shows colours. -/
  isTerminal : Bool := false
  /-- What has been printed, piece by piece. -/
  printed : Array String := #[]

namespace Console

/-- Prints a text. -/
def print (c : Console) (text : String) : Console :=
  { c with printed := c.printed.push text }

/-- The text printed so far. -/
def text (c : Console) : String :=
  c.printed.foldl (· ++ ·) ""

/-- Reads the clock. -/
def now (c : Console) : Float × Console :=
  let (time, clock) := c.clock.read
  (time, { c with clock })

/-- A console with nothing printed yet. -/
def erase (c : Console) : Console :=
  { c with printed := #[] }

@[simp] theorem text_print (c : Console) (s : String) : (c.print s).text = c.text ++ s := by
  simp [text, print]

@[simp] theorem text_erase (c : Console) : c.erase.text = "" := by
  simp [text, erase]

@[simp] theorem print_clock (c : Console) (s : String) : (c.print s).clock = c.clock := rfl

@[simp] theorem now_printed (c : Console) : c.now.2.printed = c.printed := rfl

end Console

end Chip8.Log
