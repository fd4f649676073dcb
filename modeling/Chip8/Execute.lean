/-
Execution of single instructions.

`State.fetch` reads the word at the program counter, `State.execute` carries a
word out, and `State.step` does both.  A fault is recorded in the state and
never raised here; what stops a machine is decided by `Machine`.

* `State.exec_memory` — no instruction changes memory;
* `State.step_of_fault` — a recorded fault suppresses execution, and only the
  program counter moves on.

Design notes: the program counter is sixteen bits wide and wraps, but whether a
word fits in memory is decided on its value as a number, so the last addresses
are out of range and not next to zero.
-/
import Chip8.State
import Chip8.Instruction
import Chip8.Sprite

namespace Chip8

namespace State

/-- Draws a sprite at the position held in two registers.  Only the rows that
land on the screen are read, so only they have to lie in memory. -/
def draw (s : State) (x y : Register) (height : Fin 16) : State :=
  let anchorX := (s.register x).toNat % screenWidth
  let anchorY := (s.register y).toNat % screenHeight
  let visible := min height.val (screenHeight - anchorY)
  if s.index.toNat + visible ≤ memorySize then
    let mask := Sprite.mask s.memory.toArray s.index.toNat anchorX anchorY height.val
    { s with display := s.display.flip mask }.setRegister flagRegister
      (if s.display.overlaps mask then 1 else 0)
  else
    { s with fault := FaultCode.outOfRange }

/-- Carries out an instruction. -/
def exec (s : State) : Instruction → State
  | .clear => { s with display := Display.blank }
  | .jump target => { s with pc := UInt16.ofNat target.val }
  | .set x value => s.setRegister x (UInt8.ofNat value.val)
  | .add x value => s.setRegister x (s.register x + UInt8.ofNat value.val)
  | .setIndex target => { s with index := UInt16.ofNat target.val }
  | .draw x y height => s.draw x y height
  | .unknown => { s with fault := FaultCode.unimplemented }

/-- Carries out a word, whatever fault is recorded. -/
def execute (s : State) (w : Int) : State :=
  s.exec (Instruction.ofWord w)

/-- Carries out a word, if it is a 32-bit number. -/
def execute? (s : State) (w : Int) : Option State :=
  if FitsSigned32 w then some (s.execute w) else none

/-- Applies an operation to a word of any family.  Only the system operation
compares the word itself, which has to be a 32-bit number for that. -/
def perform? (s : State) (operation : Operation) (w : Int) : Option State :=
  if operation = .system ∧ ¬ FitsSigned32 w then none else some (s.exec (operation.read w))

/-- Reads the word at the program counter and moves past it.  A word that does
not fit in memory reads as zero and records a fault. -/
def fetch (s : State) : State × Nat :=
  if s.pc.toNat + 1 < memorySize then
    ({ s with pc := s.pc + 2 }, s.memory.wordAt s.pc.toNat)
  else
    ({ s with pc := s.pc + 2, fault := FaultCode.outOfRange }, 0)

/-- Fetches a word and carries it out, unless a fault is recorded by then. -/
def step (s : State) : State × Nat :=
  let (t, w) := s.fetch
  if t.fault = FaultCode.none then (t.execute w, w) else (t, w)

/-! ### What stays the same -/

@[simp] theorem draw_memory (s : State) (x y : Register) (n : Fin 16) :
    (s.draw x y n).memory = s.memory := by
  simp only [draw]; split <;> rfl

@[simp] theorem exec_memory (s : State) (i : Instruction) : (s.exec i).memory = s.memory := by
  cases i <;> simp [exec]

@[simp] theorem execute_memory (s : State) (w : Int) : (s.execute w).memory = s.memory := by
  simp [execute]

@[simp] theorem fetch_memory (s : State) : s.fetch.1.memory = s.memory := by
  simp only [fetch]; split <;> rfl

@[simp] theorem step_memory (s : State) : s.step.1.memory = s.memory := by
  simp only [step]; split <;> simp

theorem fetch_fault_ne {s : State} (h : s.fault ≠ FaultCode.none) :
    s.fetch.1.fault ≠ FaultCode.none := by
  simp only [fetch]
  split
  · exact h
  · show (2 : UInt8) ≠ 0
    decide

theorem step_of_fault {s : State} (h : s.fault ≠ FaultCode.none) : s.step = s.fetch := by
  simp [step, fetch_fault_ne h]

end State

end Chip8
