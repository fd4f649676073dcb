/-
Levels of a log.

Five levels are known by name, in capitals.  A level is always given as a text,
which may be any text: `rankOf` puts it into capitals first, and `rankOfName`
ranks a name that is none of the five like `INFO`.

* `rankOfName_name` — the names of the levels have the ranks 0 to 4;
* `rankOfName_of_unknown` — all other names have rank 1;
* `colorOfName_name` — the names of the levels have the colours of the levels.

Design notes: terminal codes are looked up by name, and `RESET` is a name of the
table like those of the levels.
-/
import Chip8.Text.UpperCase

namespace Chip8.Log

/-- The levels, in ascending order. -/
inductive Level where
  | debug
  | info
  | warning
  | error
  | critical
deriving DecidableEq, Repr

namespace Level

/-- All levels, in ascending order. -/
def all : List Level := [debug, info, warning, error, critical]

/-- The name of a level. -/
def name : Level → String
  | debug => "DEBUG"
  | info => "INFO"
  | warning => "WARNING"
  | error => "ERROR"
  | critical => "CRITICAL"

/-- The place of a level in the order. -/
def rank : Level → Nat
  | debug => 0
  | info => 1
  | warning => 2
  | error => 3
  | critical => 4

/-- The terminal code that switches to the colour of a level. -/
def color : Level → String
  | debug => "\x1b[36m"
  | info => "\x1b[32m"
  | warning => "\x1b[33m"
  | error => "\x1b[31m"
  | critical => "\x1b[35m"

/-- The level with a name. -/
def ofName? (name : String) : Option Level :=
  all.find? fun level => level.name = name

end Level

/-- The rank of a name. -/
def rankOfName (name : String) : Nat :=
  ((Level.ofName? name).map Level.rank).getD 1

/-- The rank of a text, in letters of any case. -/
def rankOf (text : String) : Nat :=
  rankOfName (Text.upper text)

/-- The name under which the code that ends all colours is found. -/
def resetName : String := "RESET"

/-- The terminal codes by name: the colours of the levels, and the code that ends
all colours. -/
def colorTable : List (String × String) :=
  Level.all.map (fun level => (level.name, level.color)) ++ [(resetName, "\x1b[0m")]

/-- The terminal code of a name, which is empty for names that are not in the
table. -/
def colorOfName (name : String) : String :=
  (colorTable.lookup name).getD ""

theorem rankOfName_name (level : Level) : rankOfName level.name = level.rank := by
  cases level <;> decide +kernel

theorem rankOfName_of_unknown {name : String} (h : ∀ level : Level, level.name ≠ name) :
    rankOfName name = 1 := by
  have : Level.ofName? name = none := by
    simp [Level.ofName?, h]
  simp [rankOfName, this]

theorem colorOfName_name (level : Level) : colorOfName level.name = level.color := by
  cases level <;> decide +kernel

end Chip8.Log
