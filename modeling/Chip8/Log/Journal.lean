/-
The journal of an execution: a logger that knows what a machine reports.

A journal prints where a program was loaded, the instructions that are traced,
and the fault that stopped a step.  It also counts the traced instructions,
whether or not their lines are printed.

* `traced_recordStep` — tracing an instruction counts it, at every threshold.
-/
import Chip8.Fault
import Chip8.Instruction
import Chip8.Log.Logger

namespace Chip8.Log

/-- A logger with its console, and the number of traced instructions. -/
structure Journal where
  logger : Logger
  console : Console
  /-- How many instructions have been traced. -/
  traced : Nat := 0

namespace Journal

/-- Opens a journal. -/
def create (options : Options) (console : Console) : Journal :=
  let (logger, console) := Logger.create options console
  { logger, console }

/-- Reports a message at a level. -/
def report (j : Journal) (level : Level) (message : String) : Journal :=
  { j with console := j.logger.log level.name message j.console }

/-- Reports where a program of some size was placed.  An empty program is shown
like one of a single byte. -/
def recordLoad (j : Journal) (size start : Int) : Journal :=
  j.report .info ("Loaded " ++ size.repr ++ " byte ROM at 0x" ++ Text.hex 3 start
    ++ "-0x" ++ Text.hex 3 (start + max size 1 - 1))

/-- Traces an instruction. -/
def recordStep (j : Journal) (address word : Int) : Journal :=
  { j with traced := j.traced + 1 }.report .debug
    ("0x" ++ Text.hex 3 address ++ ": " ++ Text.hex 4 word ++ "  " ++ disassemble word)

/-- Reports a fault. -/
def recordFault (j : Journal) (fault : Fault) : Journal :=
  j.report .error (fault.name ++ ": " ++ fault.message)

@[simp] theorem traced_report (j : Journal) (level : Level) (message : String) :
    (j.report level message).traced = j.traced := rfl

@[simp] theorem traced_recordStep (j : Journal) (address word : Int) :
    (j.recordStep address word).traced = j.traced + 1 := rfl

@[simp] theorem traced_recordFault (j : Journal) (fault : Fault) :
    (j.recordFault fault).traced = j.traced := rfl

end Journal

end Chip8.Log
