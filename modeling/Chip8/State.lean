/-
The state of the machine's core, and how a program is loaded.

* `State.load?` places a program at `programStart` in otherwise empty memory,
  and refuses one that does not fit;
* `byteAt_image` — what the memory of a loaded program holds at each address;
* `State.load?_eq_ok_iff` — exactly the programs of at most 3583 bytes fit.
-/
import Chip8.Display
import Chip8.Fault
import Chip8.Word

namespace Chip8

/-- Memory: one byte for each address. -/
abbrev Memory := Vector Byte 4095

namespace Memory

/-- The byte at an address; zero outside memory. -/
def byteAt (m : Memory) (a : Nat) : Byte :=
  m[a]?.getD 0

/-- The word at an address, the high byte first. -/
def wordAt (m : Memory) (a : Nat) : Nat :=
  256 * (m.byteAt a).toNat + (m.byteAt (a + 1)).toNat

theorem wordAt_lt (m : Memory) (a : Nat) : m.wordAt a < 65536 := by
  have h₁ := (m.byteAt a).toNat_lt
  have h₂ := (m.byteAt (a + 1)).toNat_lt
  simp only [wordAt]
  omega

/-- Memory with a program at `programStart` and zeros around it. -/
def image (rom : Array Byte) : Memory :=
  Vector.ofFn fun a => if programStart ≤ a.val then rom[a.val - programStart]?.getD 0 else 0

theorem byteAt_image {rom : Array Byte} (h : programStart + rom.size ≤ memorySize) (a : Nat) :
    (image rom).byteAt a = if programStart ≤ a then rom[a - programStart]?.getD 0 else 0 := by
  unfold byteAt image
  by_cases ha : a < 4095
  · simp [ha]
  · have hr : rom[a - programStart]? = none := by
      simp only [Array.getElem?_eq_none_iff, programStart, memorySize] at h ⊢
      omega
    simp [ha, hr]

end Memory

/-- Everything that an instruction can see or change. -/
structure State where
  /-- Memory, which no instruction changes. -/
  memory : Memory := Vector.replicate 4095 0
  /-- The general registers; the last is also the collision flag of a draw. -/
  registers : Vector Byte 16 := Vector.replicate 16 0
  /-- Address of the next instruction. -/
  pc : UInt16 := UInt16.ofNat programStart
  /-- The address register: where the bytes of a sprite start. -/
  index : UInt16 := 0
  /-- The screen. -/
  display : Display := Display.blank
  /-- Fault of the last operation. -/
  fault : FaultCode := FaultCode.none
deriving DecidableEq

namespace State

/-- The value of a register. -/
def register (s : State) (x : Register) : Byte := s.registers[x]

/-- The state with one register set. -/
def setRegister (s : State) (x : Register) (value : Byte) : State :=
  { s with registers := s.registers.set x value }

@[simp] theorem setRegister_memory (s : State) (x : Register) (value : Byte) :
    (s.setRegister x value).memory = s.memory := rfl
@[simp] theorem setRegister_fault (s : State) (x : Register) (value : Byte) :
    (s.setRegister x value).fault = s.fault := rfl

/-- The state in which a program starts.  A program that does not fit is refused
with the address of its last byte. -/
def load? (rom : Array Byte) : Except Fault State :=
  if programStart + rom.size ≤ memorySize then
    .ok { memory := Memory.image rom }
  else
    .error (.outOfRange ((programStart + rom.size : Nat) - 1) none)

theorem load?_eq_ok_iff {rom : Array Byte} {s : State} :
    load? rom = .ok s ↔ rom.size ≤ 3583 ∧ s = { memory := Memory.image rom } := by
  unfold load?
  split
  · next h =>
    simp only [programStart, memorySize] at h
    simp only [Except.ok.injEq]
    constructor
    · rintro rfl; exact ⟨by omega, rfl⟩
    · rintro ⟨_, rfl⟩; rfl
  · next h =>
    simp only [programStart, memorySize] at h
    simp only [reduceCtorEq, false_iff, not_and]
    omega

end State

end Chip8
