/-
A logger prints lines that are important enough.

A line consists of the time since the logger was opened, the level, the name of
the logger and a message.  The level is compared with the threshold by rank;
what falls below it prints nothing and takes no reading of the clock.

* `log_of_lt` — a call below the threshold leaves the console as it is;
* `log_of_le` — any other call prints exactly one line.

Design notes: a level is printed as it was given, and only compared and looked up
in capitals.  Colours are shown on terminals only, and a level without a colour of
its own still ends with the code that resets them.
-/
import Chip8.Decimal.Rounded
import Chip8.Log.Console
import Chip8.Log.Level

namespace Chip8.Log

/-- A text moved to the right end of a field. -/
def padLeft (width : Nat) (s : String) : String :=
  String.ofList (List.replicate (width - s.length) ' ') ++ s

/-- How a logger is to be set up. -/
structure Options where
  /-- The name that stands in every line. -/
  name : String
  /-- The least important level that is printed. -/
  level : String := "INFO"
  /-- Whether levels are coloured on a terminal. -/
  colors : Bool := true
  /-- Whether lines start with the time. -/
  timestamps : Bool := true
deriving DecidableEq, Repr

/-- An open logger. -/
structure Logger where
  /-- The name that stands in every line. -/
  name : String
  /-- The threshold, in capitals. -/
  threshold : String
  /-- Whether levels are coloured. -/
  colors : Bool
  /-- Whether lines start with the time. -/
  timestamps : Bool
  /-- The time at which the logger was opened. -/
  start : Float

namespace Logger

/-- Opens a logger, which reads the clock once. -/
def create (options : Options) (console : Console) : Logger × Console :=
  let (start, console) := console.now
  ({ name := options.name
     threshold := Text.upper options.level
     colors := options.colors && console.isTerminal
     timestamps := options.timestamps
     start }, console)

/-- The terminal code of a name in capitals, if levels are coloured. -/
def colorOf (logger : Logger) (name : String) : String :=
  if logger.colors then colorOfName name else ""

/-- Whether a level is important enough to be printed. -/
def passes (logger : Logger) (level : String) : Bool :=
  rankOfName logger.threshold ≤ rankOf level

/-- The time of a line: the seconds since the start, with two places. -/
def stamp (logger : Logger) (time : Float) : String :=
  "[" ++ padLeft 8 (Decimal.rounded 2 (time - logger.start)) ++ "s]"

/-- What a line says after its time: the level in its colour, the name of the logger
and the message. -/
def entry (logger : Logger) (level message : String) : String :=
  logger.colorOf (Text.upper level) ++ "[" ++ padLeft 8 level ++ "]"
    ++ logger.colorOf resetName ++ "[" ++ logger.name ++ "] " ++ message

/-- A line without its time. -/
def body (logger : Logger) (level message : String) : String :=
  logger.entry level message ++ "\n"

/-- Prints a message, if its level is important enough. -/
def log (logger : Logger) (level message : String) (console : Console) : Console :=
  if logger.passes level then
    if logger.timestamps then
      let (time, console) := console.now
      console.print (logger.stamp time ++ logger.body level message)
    else
      console.print (logger.body level message)
  else console

theorem log_of_lt {logger : Logger} {level : String}
    (h : rankOf level < rankOfName logger.threshold) (message : String) (console : Console) :
    logger.log level message console = console := by
  have : logger.passes level = false := by simp [passes, h]
  simp [log, this]

theorem log_of_le {logger : Logger} {level : String}
    (h : rankOfName logger.threshold ≤ rankOf level) (message : String) (console : Console) :
    ∃ time, (logger.log level message console).printed
      = console.printed.push (time ++ logger.body level message) := by
  have : logger.passes level = true := by simp [passes, h]
  simp only [log, this, if_true]
  split
  · exact ⟨_, rfl⟩
  · exact ⟨"", by simp [Console.print]⟩

end Logger

end Chip8.Log
