/-
Faults: what can stop an instruction.

The core of the machine records a fault as one byte of its state, the
`FaultCode`; a machine turns the byte into a `Fault`, which says what happened
and where, and has a name and a message.

Design notes: the byte is kept as a byte, because a state may be given any
value there; only zero means that all is well.
-/
import Chip8.Text.Hex

namespace Chip8

/-- The byte of the state that records a fault. -/
abbrev FaultCode := UInt8

namespace FaultCode

/-- No fault. -/
abbrev none : FaultCode := 0

/-- The last word was no instruction. -/
abbrev unimplemented : FaultCode := 1

/-- The last instruction left memory. -/
abbrev outOfRange : FaultCode := 2

end FaultCode

/-- A fault, with the address it happened at. -/
inductive Fault where
  /-- The word at an address is no instruction. -/
  | unimplemented (instruction address : Int)
  /-- An address is outside memory, or the instruction there reads outside. -/
  | outOfRange (address : Int) (instruction : Option Int)
deriving DecidableEq, Repr

namespace Fault

/-- Where the fault happened. -/
def address : Fault → Int
  | unimplemented _ address => address
  | outOfRange address _ => address

/-- The instruction word at fault, if there is one. -/
def instruction : Fault → Option Int
  | unimplemented instruction _ => some instruction
  | outOfRange _ instruction => instruction

/-- The name under which a fault is reported. -/
def name : Fault → String
  | unimplemented .. => "UnimplementedInstruction"
  | outOfRange .. => "AddressOutOfRange"

/-- The sentence that describes a fault. -/
def message : Fault → String
  | unimplemented instruction address =>
    "Unimplemented instruction 0x" ++ Text.hex 4 instruction ++ " at 0x" ++ Text.hex 3 address
  | outOfRange address none => "Address 0x" ++ Text.hex 3 address ++ " out of range"
  | outOfRange address (some instruction) =>
    "Instruction 0x" ++ Text.hex 4 instruction ++ " at 0x" ++ Text.hex 3 address
      ++ " accessed memory out of range"

end Fault

end Chip8
