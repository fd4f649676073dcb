/-
What one step of the core does.

An instruction is either carried out or refused.  Which of the two, and why, is
decided by `State.refusal` from the registers alone, before anything is done:

* `State.exec_of_refusal` — a refused instruction only records its fault;
* `State.exec_fault` — one that is not refused leaves the recorded fault alone;
* `State.refusal_draw_iff` — a draw is refused exactly if some row that lands on
  the screen is outside memory;
* `State.step_of_fits`, `State.step_of_refusal`, `State.step_of_not_fits` — the
  step of a state without a fault, inside and outside memory;
* `State.step_of_step_fault` — a step that ends with a fault has changed
  nothing but the program counter and the fault;
* `Machine.advance_of_not_fits`, `Machine.advance_of_refusal` — the fault that
  the machine reports;
* `Machine.step_cases` — a step of the machine commits or reports, and nothing
  else.

Design notes: a draw that asks for no rows reads nothing, but it is still
refused if the address register is beyond the end of memory.  That cannot happen
to a machine, whose address register has twelve bits, and it is why the exact
condition is stated for such states only.
-/
import Chip8.Machine
import Chip8.Proofs.Dispatch

namespace Chip8

/-- The two kinds of fault. -/
inductive Fault.Kind where
  /-- A word is no instruction. -/
  | unimplemented
  /-- An address is outside memory. -/
  | outOfRange
deriving DecidableEq, Repr

/-- The byte that records a kind of fault. -/
def Fault.Kind.code : Fault.Kind → FaultCode
  | unimplemented => FaultCode.unimplemented
  | outOfRange => FaultCode.outOfRange

/-- The kind of a fault. -/
def Fault.kind : Fault → Fault.Kind
  | .unimplemented .. => .unimplemented
  | .outOfRange .. => .outOfRange

theorem Fault.Kind.code_ne_none (kind : Fault.Kind) : kind.code ≠ FaultCode.none := by
  cases kind <;> decide

namespace State

/-! ### Refusals -/

/-- How many rows of a sprite land on the screen. -/
def visibleRows (s : State) (y : Register) (height : Fin 16) : Nat :=
  min height.val (screenHeight - (s.register y).toNat % screenHeight)

/-- Why an instruction is refused, if it is. -/
def refusal (s : State) : Instruction → Option Fault.Kind
  | .draw _ y height =>
    if s.index.toNat + s.visibleRows y height ≤ memorySize then none else some .outOfRange
  | .unknown => some .unimplemented
  | _ => none

/-- The sprite of a draw, laid over the screen. -/
def sprite (s : State) (x y : Register) (height : Fin 16) : Display :=
  Sprite.mask s.memory.toArray s.index.toNat ((s.register x).toNat % screenWidth : Nat)
    ((s.register y).toNat % screenHeight : Nat) height.val

theorem draw_of_le {s : State} {x y : Register} {n : Fin 16}
    (h : s.index.toNat + s.visibleRows y n ≤ memorySize) :
    s.draw x y n =
      { s with display := s.display.flip (s.sprite x y n) }.setRegister flagRegister
        (if s.display.overlaps (s.sprite x y n) then 1 else 0) :=
  if_pos h

theorem draw_of_lt {s : State} {x y : Register} {n : Fin 16}
    (h : memorySize < s.index.toNat + s.visibleRows y n) :
    s.draw x y n = { s with fault := FaultCode.outOfRange } :=
  if_neg (Nat.not_le.2 h)

theorem refusal_draw_eq_none_iff {s : State} {x y : Register} {n : Fin 16} :
    s.refusal (.draw x y n) = none ↔ s.index.toNat + s.visibleRows y n ≤ memorySize := by
  simp only [refusal]
  split
  · next h => exact ⟨fun _ => h, fun _ => rfl⟩
  · next h => exact ⟨fun hr => by simp at hr, fun hle => absurd hle h⟩

theorem exec_of_refusal {s : State} {i : Instruction} {kind : Fault.Kind}
    (h : s.refusal i = some kind) : s.exec i = { s with fault := kind.code } := by
  cases i with
  | draw x y n =>
    by_cases hin : s.index.toNat + s.visibleRows y n ≤ memorySize
    · rw [refusal_draw_eq_none_iff.2 hin] at h
      simp at h
    · rw [refusal, if_neg hin, Option.some.injEq] at h
      subst h
      exact draw_of_lt (Nat.not_le.1 hin)
  | unknown =>
    rw [refusal, Option.some.injEq] at h
    subst h
    rfl
  | _ => simp [refusal] at h

theorem exec_fault {s : State} {i : Instruction} (h : s.refusal i = none) :
    (s.exec i).fault = s.fault := by
  cases i with
  | draw x y n => rw [exec, draw_of_le (refusal_draw_eq_none_iff.1 h), setRegister_fault]
  | unknown => simp [refusal] at h
  | _ => rfl

/-! ### What an instruction can set -/

@[simp] theorem draw_pc (s : State) (x y : Register) (n : Fin 16) : (s.draw x y n).pc = s.pc := by
  rw [draw]; split <;> rfl

@[simp] theorem draw_index (s : State) (x y : Register) (n : Fin 16) :
    (s.draw x y n).index = s.index := by
  rw [draw]; split <;> rfl

/-- Only a jump sets the program counter. -/
theorem exec_pc (s : State) (i : Instruction) :
    (s.exec i).pc = match i with
      | .jump target => UInt16.ofNat target.val
      | _ => s.pc := by
  cases i with
  | draw x y n => exact draw_pc s x y n
  | _ => rfl

/-- Only one instruction sets the address register. -/
theorem exec_index (s : State) (i : Instruction) :
    (s.exec i).index = match i with
      | .setIndex target => UInt16.ofNat target.val
      | _ => s.index := by
  cases i with
  | draw x y n => exact draw_index s x y n
  | _ => rfl

theorem toNat_ofNat_address (target : Address) : (UInt16.ofNat target.val).toNat = target.val := by
  rw [UInt16.toNat_ofNat']
  omega

theorem exec_index_le {s : State} (h : s.index.toNat ≤ addressMask) (i : Instruction) :
    (s.exec i).index.toNat ≤ addressMask := by
  rw [exec_index]
  cases i with
  | setIndex target =>
    show (UInt16.ofNat target.val).toNat ≤ 0xFFF
    rw [toNat_ofNat_address]
    omega
  | _ => exact h

theorem exec_pc_le {s : State} (h : s.pc.toNat ≤ addressMask) (i : Instruction) :
    (s.exec i).pc.toNat ≤ addressMask := by
  rw [exec_pc]
  cases i with
  | jump target =>
    show (UInt16.ofNat target.val).toNat ≤ 0xFFF
    rw [toNat_ofNat_address]
    omega
  | _ => exact h

/-! ### Why an instruction is refused -/

theorem refusal_eq_unimplemented_iff {s : State} {i : Instruction} :
    s.refusal i = some .unimplemented ↔ i = .unknown := by
  cases i with
  | draw x y height => simp only [refusal]; split <;> simp
  | _ => simp [refusal]

/-- Only draws leave memory. -/
theorem exists_draw_of_refusal {s : State} {i : Instruction}
    (h : s.refusal i = some .outOfRange) : ∃ x y n, i = .draw x y n := by
  cases i with
  | draw x y n => exact ⟨x, y, n, rfl⟩
  | _ => simp [refusal] at h

theorem refusal_draw_iff {s : State} (hI : s.index.toNat ≤ addressMask) (x y : Register)
    (n : Fin 16) :
    s.refusal (.draw x y n) = some .outOfRange ↔
      ∃ r < n.val, (s.register y).toNat % 32 + r < 32 ∧ 4095 ≤ s.index.toNat + r := by
  have hdef : s.refusal (.draw x y n) = some .outOfRange ↔
      memorySize < s.index.toNat + s.visibleRows y n := by
    by_cases h : s.index.toNat + s.visibleRows y n ≤ memorySize
    · rw [refusal_draw_eq_none_iff.2 h]
      simp only [reduceCtorEq, false_iff, not_lt]
      exact h
    · rw [refusal, if_neg h]
      exact ⟨fun _ => Nat.not_le.1 h, fun _ => rfl⟩
  rw [hdef]
  simp only [visibleRows, screenHeight, memorySize, addressMask] at hI ⊢
  constructor
  · -- the last visible row is the one furthest out
    intro h
    refine ⟨min n.val (32 - (s.register y).toNat % 32) - 1, ?_, ?_, ?_⟩ <;> omega
  · rintro ⟨r, hr, hv, hout⟩
    omega

/-! ### The step -/

/-- The state with the program counter past the next instruction. -/
def moveOn (s : State) : State := { s with pc := s.pc + 2 }

@[simp] theorem moveOn_memory (s : State) : s.moveOn.memory = s.memory := rfl
@[simp] theorem moveOn_registers (s : State) : s.moveOn.registers = s.registers := rfl
@[simp] theorem moveOn_index (s : State) : s.moveOn.index = s.index := rfl
@[simp] theorem moveOn_display (s : State) : s.moveOn.display = s.display := rfl
@[simp] theorem moveOn_fault (s : State) : s.moveOn.fault = s.fault := rfl
@[simp] theorem refusal_moveOn (s : State) (i : Instruction) :
    s.moveOn.refusal i = s.refusal i := by
  cases i <;> rfl

/-- Whether the word at the program counter lies in memory. -/
def Fits (s : State) : Prop := s.pc.toNat + 1 < memorySize

instance (s : State) : Decidable s.Fits := by
  unfold Fits; infer_instance

/-- The word at the program counter. -/
def word (s : State) : Nat := s.memory.wordAt s.pc.toNat

theorem word_lt (s : State) : s.word < 65536 := Memory.wordAt_lt _ _

theorem toNat_moveOn_pc {s : State} (h : s.Fits) : s.moveOn.pc.toNat = s.pc.toNat + 2 := by
  have hlt : s.pc.toNat + 1 < 4095 := h
  show (s.pc + 2).toNat = s.pc.toNat + 2
  rw [UInt16.toNat_add, show (2 : UInt16).toNat = 2 from rfl]
  omega

theorem fetch_of_fits {s : State} (h : s.Fits) : s.fetch = (s.moveOn, s.word) :=
  if_pos h

theorem fetch_of_not_fits {s : State} (h : ¬ s.Fits) :
    s.fetch = ({ s.moveOn with fault := FaultCode.outOfRange }, 0) :=
  if_neg h

theorem step_of_fits {s : State} (hf : s.fault = FaultCode.none) (h : s.Fits) :
    s.step = (s.moveOn.exec (Instruction.ofWord s.word), s.word) := by
  rw [step, fetch_of_fits h]
  exact if_pos hf

theorem step_of_not_fits {s : State} (h : ¬ s.Fits) :
    s.step = ({ s.moveOn with fault := FaultCode.outOfRange }, 0) := by
  rw [step, fetch_of_not_fits h]
  exact if_neg (by decide : ¬ (2 : UInt8) = 0)

theorem exec_moveOn_fault {s : State} {i : Instruction} (hr : s.refusal i = none) :
    (s.moveOn.exec i).fault = s.fault := by
  rw [exec_fault (by rw [refusal_moveOn, hr]), moveOn_fault]

theorem step_of_refusal {s : State} (hf : s.fault = FaultCode.none) (h : s.Fits)
    {kind : Fault.Kind} (hr : s.refusal (Instruction.ofWord s.word) = some kind) :
    s.step = ({ s.moveOn with fault := kind.code }, s.word) := by
  rw [step_of_fits hf h, exec_of_refusal (by rw [refusal_moveOn, hr])]

theorem step_of_step_fault {s : State} (h : s.step.1.fault ≠ FaultCode.none) :
    s.step.1 = { s.moveOn with fault := s.step.1.fault } := by
  by_cases hfits : s.Fits
  · by_cases hf : s.fault = FaultCode.none
    · cases hr : s.refusal (Instruction.ofWord s.word) with
      | none =>
        -- nothing but a refusal records a fault inside memory
        refine absurd ?_ h
        rw [step_of_fits hf hfits]
        exact (exec_moveOn_fault hr).trans hf
      | some kind => rw [step_of_refusal hf hfits hr]
    · -- the fault was there before, and the step is only a fetch
      rw [step_of_fault hf, fetch_of_fits hfits]
  · rw [step_of_not_fits hfits]

end State

/-! ### The machine's step -/

namespace Machine

theorem advance_eq (s : State) :
    advance s =
      if s.step.1.fault = FaultCode.none then .ok s.step
      else .error (faultAt s.step.1.fault s.pc.toNat s.step.2) := rfl

theorem advance_of_not_fits {s : State} (h : ¬ s.Fits) :
    advance s = .error (.outOfRange s.pc.toNat none) := by
  have hr : memorySize ≤ s.pc.toNat + 1 := Nat.le_of_not_lt h
  have hcode : FaultCode.outOfRange ≠ FaultCode.unimplemented := by decide
  have hfault : FaultCode.outOfRange ≠ FaultCode.none := by decide
  rw [advance_eq, State.step_of_not_fits h]
  simp only [if_neg hfault, faultAt, if_neg hcode, if_pos hr]

theorem advance_of_refusal_none {s : State} (hf : s.fault = FaultCode.none) (h : s.Fits)
    (hr : s.refusal (Instruction.ofWord s.word) = none) :
    advance s = .ok (s.moveOn.exec (Instruction.ofWord s.word), s.word) := by
  have hfault : (s.moveOn.exec (Instruction.ofWord s.word)).fault = FaultCode.none :=
    (State.exec_moveOn_fault hr).trans hf
  rw [advance_eq, State.step_of_fits hf h]
  exact if_pos hfault

/-- The fault that a machine reports for a refused word. -/
def refusalFault (kind : Fault.Kind) (address word : Nat) : Fault :=
  match kind with
  | .unimplemented => .unimplemented word address
  | .outOfRange => .outOfRange address (some (word : Int))

theorem advance_of_refusal {s : State} (hf : s.fault = FaultCode.none) (h : s.Fits)
    {kind : Fault.Kind} (hr : s.refusal (Instruction.ofWord s.word) = some kind) :
    advance s = .error (refusalFault kind s.pc.toNat s.word) := by
  have hin : ¬ memorySize ≤ s.pc.toNat + 1 := Nat.not_le.2 h
  rw [advance_eq, State.step_of_refusal hf h hr]
  simp only [if_neg kind.code_ne_none, faultAt, if_neg hin]
  cases kind with
  | unimplemented => rfl
  | outOfRange => rfl

/-- The machine after an instruction has been carried out. -/
def commit (m : Machine) : Machine :=
  { m with
    state := m.state.moveOn.exec (Instruction.ofWord m.state.word)
    steps := m.steps + 1
    journal := if m.config.tracing then m.journal.recordStep m.state.pc.toNat m.state.word
      else m.journal }

/-- The machine after a fault has been reported. -/
def report (m : Machine) (f : Fault) : Machine :=
  { m with journal := m.journal.recordFault f }

@[simp] theorem commit_state (m : Machine) :
    m.commit.state = m.state.moveOn.exec (Instruction.ofWord m.state.word) := rfl
@[simp] theorem commit_steps (m : Machine) : m.commit.steps = m.steps + 1 := rfl
@[simp] theorem commit_config (m : Machine) : m.commit.config = m.config := rfl
@[simp] theorem report_state (m : Machine) (f : Fault) : (m.report f).state = m.state := rfl
@[simp] theorem report_steps (m : Machine) (f : Fault) : (m.report f).steps = m.steps := rfl
@[simp] theorem report_config (m : Machine) (f : Fault) :
    (m.report f).config = m.config := rfl

/-- **A step of a machine without a recorded fault** carries its instruction out,
or reports a fault and does nothing else. -/
theorem step_cases {m : Machine} (hf : m.state.fault = FaultCode.none) :
    (m.state.Fits ∧ m.state.refusal (Instruction.ofWord m.state.word) = none
        ∧ m.step = (m.commit, none))
      ∨ ∃ f, advance m.state = .error f ∧ m.step = (m.report f, some f) := by
  by_cases hfits : m.state.Fits
  · cases hr : m.state.refusal (Instruction.ofWord m.state.word) with
    | none =>
      exact Or.inl ⟨hfits, rfl, step_of_ok (advance_of_refusal_none hf hfits hr)⟩
    | some kind =>
      have hadv := advance_of_refusal hf hfits hr
      exact Or.inr ⟨_, hadv, step_of_fault hadv⟩
  · have hadv := advance_of_not_fits hfits
    exact Or.inr ⟨_, hadv, step_of_fault hadv⟩

end Machine

end Chip8
