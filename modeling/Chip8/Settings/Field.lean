/-
Settings of a machine and their fields.

* `Field.ofName?_name` — the names of the fields differ.
-/
import Chip8.Settings.Convert

namespace Chip8

/-- The settings of a machine. -/
structure Settings where
  /-- The least important level that is logged. -/
  logLevel : String := "INFO"
  /-- Whether levels are coloured on a terminal. -/
  useColors : Bool := true
  /-- Whether log lines start with the time. -/
  showTimestamps : Bool := true
  /-- Whether every instruction is logged. -/
  trace : Bool := false
  /-- Whether a long run shows how far it is. -/
  progress : Bool := false
deriving DecidableEq, Repr

namespace Settings

/-- The fields of the settings. -/
inductive Field where
  | logLevel
  | useColors
  | showTimestamps
  | trace
  | progress
deriving DecidableEq, Repr

namespace Field

/-- All fields, in order. -/
def all : List Field := [logLevel, useColors, showTimestamps, trace, progress]

/-- The key of a field. -/
def name : Field → String
  | logLevel => "log_level"
  | useColors => "use_colors"
  | showTimestamps => "show_timestamps"
  | trace => "trace"
  | progress => "progress"

/-- The field with a key. -/
def ofName? (name : String) : Option Field :=
  all.find? fun field => field.name = name

theorem ofName?_name (field : Field) : ofName? field.name = some field := by
  cases field <;> decide +kernel

/-- A value converted for a field: a text for the level and a truth value for all
else. -/
def convert? (field : Field) (value : Value) : Option Value :=
  match field with
  | logLevel => value.toText?.map .text
  | _ => value.toBool?.map .bool

end Field

end Settings

end Chip8
