/-
Instructions and their mnemonics.

A word is read in two stages: its family selects an `Operation`, and the
operation reads the operands that it uses from the fields.  Disassembly does not
go through instructions; it compares the word with one form after the other.

* `disassemble_emod` — the mnemonic depends on the low sixteen bits alone;
* `Instruction.ofWord_emod` — so does the instruction, with one exception:
  clearing the screen asks for the whole word to be `0x00E0`.

Design notes: an operation can also be applied to a word of another family,
which then only lends its operands.  That is why reading an operation is a
definition of its own and not a branch inside `Instruction.ofWord`.
-/
import Chip8.Word
import Chip8.Text.Hex

namespace Chip8

/-- An instruction with its operands. -/
inductive Instruction where
  /-- Darkens the whole screen. -/
  | clear
  /-- Goes on at an address. -/
  | jump (target : Address)
  /-- Sets a register to a byte. -/
  | set (x : Register) (value : Fin 256)
  /-- Adds a byte to a register, modulo 256. -/
  | add (x : Register) (value : Fin 256)
  /-- Sets the address register. -/
  | setIndex (target : Address)
  /-- Draws a sprite of some height at the position held in two registers. -/
  | draw (x y : Register) (height : Fin 16)
  /-- Any word that is no instruction of this machine. -/
  | unknown
deriving DecidableEq, Repr

/-- What can be done with a word, before its operands are read. -/
inductive Operation where
  | system
  | clear
  | jump
  | set
  | add
  | setIndex
  | draw
  | unknown
deriving DecidableEq, Repr

namespace Operation

/-- The operation that a family selects. -/
def ofFamily : Fin 16 → Operation
  | 0x0 => system
  | 0x1 => jump
  | 0x6 => set
  | 0x7 => add
  | 0xA => setIndex
  | 0xD => draw
  | _ => unknown

/-- The instruction that an operation makes of a word.  Only the system
operation looks beyond the operands: it clears the screen for the word `0x00E0`
and knows no other. -/
def read (operation : Operation) (w : Int) : Instruction :=
  let f := Fields.ofWord w
  match operation with
  | system => if w = 0x00E0 then .clear else .unknown
  | clear => .clear
  | jump => .jump f.nnn
  | set => .set f.x f.nn
  | add => .add f.x f.nn
  | setIndex => .setIndex f.nnn
  | draw => .draw f.x f.y f.n
  | unknown => .unknown

end Operation

namespace Instruction

/-- The instruction that a word stands for. -/
def ofWord (w : Int) : Instruction :=
  (Operation.ofFamily (Fields.ofWord w).family).read w

theorem ofWord_emod {w : Int} (h : w % 65536 = 0x00E0 → w = 0x00E0) :
    ofWord (w % 65536) = ofWord w := by
  unfold ofWord
  rw [Fields.ofWord_emod]
  cases Operation.ofFamily (Fields.ofWord w).family <;>
    simp only [Operation.read, Fields.ofWord_emod]
  by_cases hw : w = 0x00E0
  · simp [hw]
  · rw [if_neg hw, if_neg (fun he => hw (h he))]

/-- The mnemonic of an instruction; a word that is no instruction is shown as
data. -/
def mnemonic (word : Nat) : Instruction → String
  | clear => "CLS"
  | jump target => "JP 0x" ++ Text.hex 3 target.val
  | set x value => "LD V" ++ Text.hex 1 x.val ++ ", 0x" ++ Text.hex 2 value.val
  | add x value => "ADD V" ++ Text.hex 1 x.val ++ ", 0x" ++ Text.hex 2 value.val
  | setIndex target => "LD I, 0x" ++ Text.hex 3 target.val
  | draw x y height =>
    "DRW V" ++ Text.hex 1 x.val ++ ", V" ++ Text.hex 1 y.val ++ ", " ++ Nat.repr height.val
  | unknown => "DW 0x" ++ Text.hex 4 word

end Instruction

/-- The mnemonic of the low sixteen bits of a word. -/
def disassemble (w : Int) : String :=
  let word := low16 w
  let family := word / 0x1000
  let f := Fields.ofWord word
  if word = 0x00E0 then "CLS"
  else if family = 0x1 then "JP 0x" ++ Text.hex 3 f.nnn.val
  else if family = 0x6 then "LD V" ++ Text.hex 1 f.x.val ++ ", 0x" ++ Text.hex 2 f.nn.val
  else if family = 0x7 then "ADD V" ++ Text.hex 1 f.x.val ++ ", 0x" ++ Text.hex 2 f.nn.val
  else if family = 0xA then "LD I, 0x" ++ Text.hex 3 f.nnn.val
  else if family = 0xD then
    "DRW V" ++ Text.hex 1 f.x.val ++ ", V" ++ Text.hex 1 f.y.val ++ ", " ++ Nat.repr f.n.val
  else "DW 0x" ++ Text.hex 4 word

theorem disassemble_emod (w : Int) : disassemble (w % 65536) = disassemble w := by
  simp only [disassemble, low16_emod]

end Chip8
