/-
The core at fault.

The core goes on after a fault, and whoever drives it may fetch, step and carry words out in
any order.  These three treat a recorded fault in different ways: a fetch keeps it or puts
its own in its place, a word that is carried out ignores it, and a step does not carry out
anything.  None of them clears it:

* `State.Action`, `State.act`, `State.actAll` — what can be done with the core;
* `State.exec_fault_ne`, `State.act_fault_ne` — one action leaves a fault where there was one;
* `State.fetch_pc`, `State.fetch_fault`, `State.fetch_word` — a fetch at any address;
* `State.after_pc`, `State.after_fault` — where steps at fault lead, and which fault they
  leave;
* `State.faults_are_sticky` — the whole of it.

Design notes: the program counter is compared with the end of memory as a number but moves
modulo `2 ^ 16`, so a core at fault may come back to addresses inside memory.  The fault of
the fetch outside is kept from then on.
-/
import Chip8.Proofs.Confinement
import Chip8.Proofs.Iteration

namespace Chip8

namespace State

/-- What can be done with the core. -/
inductive Action where
  | fetch
  | step
  /-- Carries out a word, which is refused if it is no 32-bit number. -/
  | execute (w : Int)
deriving DecidableEq, Repr

/-- The state after an action; one that is refused keeps the state. -/
def act (s : State) : Action → State
  | .fetch => s.fetch.1
  | .step => s.step.1
  | .execute w => (s.execute? w).getD s

/-- The state after some actions. -/
def actAll (s : State) (actions : List Action) : State :=
  actions.foldl act s

variable {s : State}

/-! ### No action clears a fault -/

theorem exec_fault_ne (h : s.fault ≠ FaultCode.none) (i : Instruction) :
    (s.exec i).fault ≠ FaultCode.none := by
  cases hr : s.refusal i with
  | none =>
    rw [exec_fault hr]
    exact h
  | some kind =>
    -- one fault takes the place of another
    rw [exec_of_refusal hr]
    exact kind.code_ne_none

theorem act_fault_ne (h : s.fault ≠ FaultCode.none) (action : Action) :
    (s.act action).fault ≠ FaultCode.none := by
  cases action with
  | fetch => exact fetch_fault_ne h
  | step => exact step_fault_ne h
  | execute w =>
    rw [act, execute?]
    by_cases hw : FitsSigned32 w
    · rw [if_pos hw]
      exact exec_fault_ne h _
    · rw [if_neg hw]
      exact h

theorem actAll_fault_ne (h : s.fault ≠ FaultCode.none) (actions : List Action) :
    (s.actAll actions).fault ≠ FaultCode.none := by
  induction actions generalizing s with
  | nil => exact h
  | cons action actions ih => exact ih (act_fault_ne h action)

/-! ### Steps at fault -/

theorem fetch_pc (s : State) : s.fetch.1.pc.toNat = (s.pc.toNat + 2) % 65536 := by
  by_cases hfits : s.Fits
  · rw [fetch_of_fits hfits]
    exact UInt16.toNat_add s.pc 2
  · rw [fetch_of_not_fits hfits]
    exact UInt16.toNat_add s.pc 2

theorem fetch_fault (s : State) :
    s.fetch.1.fault = if s.pc.toNat ≤ 4093 then s.fault else FaultCode.outOfRange := by
  by_cases hpc : s.pc.toNat ≤ 4093
  · rw [fetch_of_fits (fits_iff.2 hpc), if_pos hpc, moveOn_fault]
  · rw [fetch_of_not_fits (mt fits_iff.1 hpc), if_neg hpc]

theorem fetch_word (s : State) : s.fetch.2 = if 4094 ≤ s.pc.toNat then 0 else s.word := by
  by_cases hpc : 4094 ≤ s.pc.toNat
  · have hout : ¬ s.Fits := fun hfits => absurd (fits_iff.1 hfits) (Nat.not_le.2 hpc)
    rw [fetch_of_not_fits hout, if_pos hpc]
  · have hfits : s.Fits := fits_iff.2 (Nat.le_of_lt_succ (Nat.not_le.1 hpc))
    rw [fetch_of_fits hfits, if_neg hpc]

/-- A state at fault is at fault after any number of steps. -/
theorem after_fault_ne (h : s.fault ≠ FaultCode.none) (n : Nat) :
    (s.after n).fault ≠ FaultCode.none := by
  induction n with
  | zero => exact h
  | succ n ih => exact step_fault_ne ih

theorem after_succ_of_fault (h : s.fault ≠ FaultCode.none) (n : Nat) :
    s.after (n + 1) = (s.after n).fetch.1 := by
  rw [after_succ, step_of_fault (after_fault_ne h n)]

theorem agrees_after (h : s.fault ≠ FaultCode.none) (n : Nat) : s.Agrees (s.after n) := by
  cases n with
  | zero => exact ⟨rfl, rfl, rfl, rfl⟩
  | succ n => exact (after_of_fault (k := 0) (step_fault_ne h) n.succ_pos).1

theorem after_pc (h : s.fault ≠ FaultCode.none) (n : Nat) :
    (s.after n).pc.toNat = (s.pc.toNat + 2 * n) % 65536 := by
  induction n with
  | zero =>
    have hlt := s.pc.toNat_lt
    rw [after_zero, Nat.mul_zero, Nat.add_zero]
    omega
  | succ n ih =>
    rw [after_succ_of_fault h, fetch_pc, ih]
    omega

/-- Steps at fault keep it as long as they stay inside memory. -/
theorem after_fault (h : s.fault ≠ FaultCode.none) (n : Nat) :
    (s.after n).fault =
      if ∀ i < n, (s.pc.toNat + 2 * i) % 65536 ≤ 4093 then s.fault else FaultCode.outOfRange := by
  induction n with
  | zero => rw [if_pos fun i hi => absurd hi (Nat.not_lt_zero i), after_zero]
  | succ n ih =>
    rw [after_succ_of_fault h, fetch_fault, ih, after_pc h]
    by_cases hall : ∀ i < n + 1, (s.pc.toNat + 2 * i) % 65536 ≤ 4093
    · rw [if_pos hall, if_pos (hall n n.lt_succ_self),
        if_pos fun i hi => hall i (Nat.lt_succ_of_lt hi)]
    · -- the fetch outside memory is the last one, or has left its fault before
      rw [if_neg hall]
      rw [Nat.forall_lt_succ_right, not_and'] at hall
      by_cases hlast : (s.pc.toNat + 2 * n) % 65536 ≤ 4093
      · rw [if_pos hlast, if_neg (hall hlast)]
      · rw [if_neg hlast]

/-- **Faults are sticky.**  Whatever is done with a state at fault, in whatever order, it
stays at fault.  Steps leave everything but the program counter and the fault as it is: they
move on by two modulo `2 ^ 16` and give the word they pass, or zero outside memory, and they
keep the fault until the first of them that is outside memory, which records its own. -/
theorem faults_are_sticky (h : s.fault ≠ 0) :
    (∀ actions : List Action, (s.actAll actions).fault ≠ 0)
      ∧ ∀ n,
        (s.after n).memory = s.memory ∧ (s.after n).registers = s.registers
        ∧ (s.after n).index = s.index ∧ (s.after n).display = s.display
        ∧ (s.after n).pc.toNat = (s.pc.toNat + 2 * n) % 65536
        ∧ (s.after n).step.2 =
          (let a := (s.after n).pc.toNat
          if 4094 ≤ a then 0
          else 256 * (s.memory.byteAt a).toNat + (s.memory.byteAt (a + 1)).toNat)
        ∧ (s.after n).fault =
          if ∀ i < n, (s.pc.toNat + 2 * i) % 65536 ≤ 4093 then s.fault else 2 := by
  refine ⟨actAll_fault_ne h, fun n => ?_⟩
  obtain ⟨hmemory, hregisters, hindex, hdisplay⟩ := agrees_after h n
  refine ⟨hmemory, hregisters, hindex, hdisplay, after_pc h n, ?_, after_fault h n⟩
  rw [step_of_fault (after_fault_ne h n), fetch_word, ← hmemory]
  rfl

/-- A state with a fault of its own, at the last word of memory: the first step keeps the
fault, and the second one does not. -/
theorem faults_are_sticky_atEnd :
    let s : State := { pc := 4093, fault := 7 }
    s.fault ≠ 0
      ∧ (s.actAll [.execute 0x00E0, .fetch, .execute (-1), .step]).fault ≠ 0
      ∧ (s.after 1).fault = 7 ∧ (s.after 1).step.2 = 0
      ∧ (s.after 2).fault = 2 ∧ (s.after 30722).pc.toNat = 1 := by
  intro s
  have h : s.fault ≠ 0 := by decide
  obtain ⟨hactions, hsteps⟩ := faults_are_sticky h
  obtain ⟨-, -, -, -, hpc, hword, hone⟩ := hsteps 1
  obtain ⟨-, -, -, -, -, -, htwo⟩ := hsteps 2
  obtain ⟨-, -, -, -, hwrapped, -, -⟩ := hsteps 30722
  have hstart : s.pc.toNat = 4093 := by decide
  rw [hstart] at hpc hwrapped hone htwo
  refine ⟨h, hactions _, hone.trans (if_pos (by decide)), ?_, htwo.trans (if_neg (by decide)),
    hwrapped⟩
  rw [hword, hpc]
  rfl

end State

end Chip8
