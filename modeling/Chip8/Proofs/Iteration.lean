/-
Runs of the machine and iterations of the core.

The core goes on after a fault: it keeps a fault in its state, moves the program
counter, and does nothing else.  The machine stops at the first fault and drops
the state that records it.  Both see the same instructions:

* `State.after_of_fault` — from the first fault on, the core keeps memory,
  registers, address register and screen, and stays at fault;
* `Machine.runFor_of_healthy`, `Machine.runFor_of_fault` — a run follows the core
  up to the first fault, and stops there;
* `Machine.run_eq_core` — a run ends in the last state of the core without a
  fault, and fails with a fault of the kind that the next state records;
* `Machine.long_run_is_no_iteration` — except that a run too long to be counted
  does not start.

Design notes: the core may replace one fault code by another later on, when the
program counter leaves memory.  That is why a run is compared with the state
right after the last one without a fault, and with no later one.
-/
import Chip8.Proofs.Calls
import Mathlib.Data.Nat.SuccPred

namespace Chip8

namespace State

/-- The state after so many steps of the core, which goes on after a fault. -/
def after (s : State) : Nat → State
  | 0 => s
  | n + 1 => (s.after n).step.1

@[simp] theorem after_zero (s : State) : s.after 0 = s := rfl

theorem after_succ (s : State) (n : Nat) : s.after (n + 1) = (s.after n).step.1 := rfl

/-- What a fault leaves alone: everything but the program counter and the fault
itself. -/
structure Agrees (s t : State) : Prop where
  memory : t.memory = s.memory
  registers : t.registers = s.registers
  index : t.index = s.index
  display : t.display = s.display

theorem step_fault_ne {s : State} (h : s.fault ≠ FaultCode.none) :
    s.step.1.fault ≠ FaultCode.none := by
  rw [step_of_fault h]
  exact fetch_fault_ne h

theorem agrees_step {s : State} (h : s.step.1.fault ≠ FaultCode.none) : s.Agrees s.step.1 := by
  rw [step_of_step_fault h]
  exact ⟨rfl, rfl, rfl, rfl⟩

theorem Agrees.trans {s t u : State} (hst : s.Agrees t) (htu : t.Agrees u) : s.Agrees u :=
  ⟨htu.memory.trans hst.memory, htu.registers.trans hst.registers, htu.index.trans hst.index,
    htu.display.trans hst.display⟩

/-- From the first fault on the core stays at fault and only moves on. -/
theorem after_of_fault {s : State} {k : Nat} (h : (s.after (k + 1)).fault ≠ FaultCode.none)
    {j : Nat} (hj : k < j) :
    (s.after k).Agrees (s.after j) ∧ (s.after j).fault ≠ FaultCode.none := by
  -- from the fault on, each step finds a fault and so leaves one
  induction j, hj using Nat.le_induction with
  | base => exact ⟨agrees_step h, h⟩
  | succ j hj ih =>
    rw [after_succ]
    have hfault := step_fault_ne ih.2
    exact ⟨ih.1.trans (agrees_step hfault), hfault⟩

end State

namespace Machine

/-- The machine reports a fault of the kind that the core records. -/
theorem kind_code_of_advance {s : State} (hf : s.fault = FaultCode.none) {f : Fault}
    (h : advance s = .error f) : f.kind.code = s.step.1.fault := by
  by_cases hfits : s.Fits
  · cases hr : s.refusal (Instruction.ofWord s.word) with
    | none =>
      rw [advance_of_refusal_none hf hfits hr] at h
      exact absurd h (by simp)
    | some kind =>
      rw [advance_of_refusal hf hfits hr, Except.error.injEq] at h
      rw [← h, State.step_of_refusal hf hfits hr]
      cases kind <;> rfl
  · rw [advance_of_not_fits hfits, Except.error.injEq] at h
    rw [← h, State.step_of_not_fits hfits]
    rfl

theorem step_of_core_ok {m : Machine} (h : m.state.step.1.fault = FaultCode.none) :
    m.step.2 = none ∧ m.step.1.state = m.state.step.1 ∧ m.step.1.steps = m.steps + 1 := by
  rw [step_of_ok (by rw [advance_eq, if_pos h])]
  exact ⟨rfl, rfl, rfl⟩

theorem step_of_core_fault {m : Machine} (hf : m.state.fault = FaultCode.none)
    (h : m.state.step.1.fault ≠ FaultCode.none) :
    ∃ f, m.step = (m.report f, some f) ∧ f.kind.code = m.state.step.1.fault := by
  have hadv := (advance_eq m.state).trans (if_neg h)
  exact ⟨_, step_of_fault hadv, kind_code_of_advance hf hadv⟩

/-! ### A run and the core -/

/-- As long as the core is without a fault, the machine is in the same state. -/
theorem runFor_of_healthy {m : Machine} {n : Nat}
    (h : ∀ i ≤ n, (m.state.after i).fault = FaultCode.none) :
    (runFor n m).2 = none ∧ (runFor n m).1.state = m.state.after n
      ∧ (runFor n m).1.steps = m.steps + n := by
  induction n with
  | zero => exact ⟨rfl, rfl, rfl⟩
  | succ n ih =>
    obtain ⟨hend, hstate, hsteps⟩ := ih fun i hi => h i (Nat.le_succ_of_le hi)
    have hcore : (runFor n m).1.state.step.1.fault = FaultCode.none := by
      rw [hstate]
      exact h (n + 1) le_rfl
    obtain ⟨hstep, hnext, hcount⟩ := step_of_core_ok hcore
    rw [runFor_add, hend]
    show (runFor 1 (runFor n m).1).2 = none ∧ _
    rw [runFor_succ, hstep]
    refine ⟨rfl, ?_, ?_⟩
    · rw [runFor_zero, hnext, hstate, State.after_succ]
    · rw [runFor_zero, hcount, hsteps, Nat.add_assoc]

theorem after_loaded_selfJump (config : Config) (journal : Log.Journal) (n : Nat) :
    (loaded selfJump config journal).state.after n = (loaded selfJump config journal).state := by
  induction n with
  | zero => rfl
  | succ n ih => rw [State.after_succ, ih, step_loaded_selfJump]

/-- A program that jumps to itself can be run for ever. -/
theorem runFor_loaded_selfJump (config : Config) (journal : Log.Journal) (n : Nat) :
    (runFor n (loaded selfJump config journal)).2 = none
      ∧ (runFor n (loaded selfJump config journal)).1.steps = n := by
  have hnever : ∀ i ≤ n, ((loaded selfJump config journal).state.after i).fault
      = FaultCode.none := by
    intro i _
    rw [after_loaded_selfJump, (healthy_loaded selfJump config journal).fault]
  obtain ⟨hend, -, hsteps⟩ := runFor_of_healthy hnever
  exact ⟨hend, hsteps.trans (Nat.zero_add n)⟩

/-- At the first fault of the core the machine stops. -/
theorem runFor_of_fault {m : Machine} {n k : Nat} (hk : k < n)
    (h : ∀ i ≤ k, (m.state.after i).fault = FaultCode.none)
    (hfault : (m.state.after (k + 1)).fault ≠ FaultCode.none) :
    (runFor n m).1.state = m.state.after k ∧ (runFor n m).1.steps = m.steps + k
      ∧ ∃ f, (runFor n m).2 = some f ∧ f.kind.code = (m.state.after (k + 1)).fault := by
  -- the first `k` steps are those of the core, and the next one fails
  obtain ⟨hend, hstate, hsteps⟩ := runFor_of_healthy h
  rw [State.after_succ, ← hstate] at hfault
  have hhealthy : (runFor k m).1.state.fault = FaultCode.none := by
    rw [hstate]
    exact h k le_rfl
  obtain ⟨f, hstep, hcode⟩ := step_of_core_fault hhealthy hfault
  obtain ⟨d, rfl⟩ : ∃ d, n = k + (d + 1) := ⟨n - k - 1, by omega⟩
  rw [runFor_add, hend]
  show (runFor (d + 1) (runFor k m).1).1.state = _ ∧ _
  rw [runFor_succ, hstep, State.after_succ, ← hstate]
  exact ⟨rfl, hsteps, f, rfl, hcode⟩

/-- The numbers of steps, up to a bound, that the core makes without a fault. -/
def healthyUpTo (s : State) (n : Nat) : Set Nat :=
  {k | k ≤ n ∧ ∀ i ≤ k, (s.after i).fault = FaultCode.none}

theorem exists_isGreatest_healthyUpTo {s : State} (h : s.fault = FaultCode.none) (n : Nat) :
    ∃ k, IsGreatest (healthyUpTo s n) k := by
  have hzero : 0 ∈ healthyUpTo s n := by
    refine ⟨Nat.zero_le n, fun i hi => ?_⟩
    rw [Nat.le_zero.1 hi]
    exact h
  exact BddAbove.exists_isGreatest_of_nonempty ⟨n, fun k hk => hk.1⟩ ⟨0, hzero⟩

theorem fault_after_isGreatest {s : State} {n k : Nat} (hk : IsGreatest (healthyUpTo s n) k)
    (hlt : k < n) : (s.after (k + 1)).fault ≠ FaultCode.none := by
  intro hnone
  have hmem : k + 1 ∈ healthyUpTo s n := by
    refine ⟨hlt, fun i hi => ?_⟩
    rcases Nat.le_succ_iff.1 hi with hle | rfl
    · exact hk.1.2 i hle
    · exact hnone
  exact absurd (hk.2 hmem) (Nat.not_succ_le_self k)

/-- **A run is the longest part of the iteration without a fault.**  Let `k` be
the largest number of steps, up to `n`, that the core makes without a fault.  A
run of `n` instructions ends in the state after `k` steps; it returns exactly if
`k = n`, and else it fails with the kind of fault that the next state of the core
records.  From there on the core only moves its program counter.  A run too long
to be counted is refused. -/
theorem run_eq_core {rom : Array Byte} {s : State} (h : State.load? rom = .ok s) (config : Config)
    (journal : Log.Journal) (n : Nat) :
    ∃ m k, load rom config journal = .ok m
      ∧ IsGreatest {k | k ≤ n ∧ ∀ i ≤ k, (s.after i).fault = FaultCode.none} k
      ∧ (k < n → ∀ j > k, (s.after j).memory = (s.after k).memory
        ∧ (s.after j).registers = (s.after k).registers
        ∧ (s.after j).index = (s.after k).index
        ∧ (s.after j).display = (s.after k).display
        ∧ (s.after j).fault ≠ FaultCode.none)
      ∧ (n ≤ runLimit →
        (m.run n).1.state = s.after k ∧ (m.run n).1.steps = k
        ∧ ((m.run n).2 = none ↔ k = n)
        ∧ (k < n → ∃ f, (m.run n).2 = some (.fault f)
          ∧ f.kind.code = (s.after (k + 1)).fault))
      ∧ (runLimit < n → m.run n = (m, some .tooLong)) := by
  obtain ⟨hsize, rfl⟩ := State.load?_eq_ok_iff.1 h
  have hload : load rom config journal = .ok (loaded rom config journal) := by
    refine load_eq_ok_iff.2 ⟨?_, rfl⟩
    rw [programStart, memorySize]
    omega
  -- a program starts without a fault, so there is a largest `k`
  obtain ⟨k, hk⟩ := exists_isGreatest_healthyUpTo
    (healthy_loaded rom config journal).fault n
  refine ⟨loaded rom config journal, k, hload, hk, ?_, ?_, ?_⟩
  · intro hlt j hj
    obtain ⟨hagree, hfault⟩ := State.after_of_fault (fault_after_isGreatest hk hlt) hj
    exact ⟨hagree.memory, hagree.registers, hagree.index, hagree.display, hfault⟩
  · intro hn
    rw [run_of_le (by omega), Int.toNat_natCast]
    rcases Nat.lt_or_ge k n with hlt | hge
    · obtain ⟨hstate, hsteps, f, hf, hcode⟩ := runFor_of_fault hlt hk.1.2
        (fault_after_isGreatest hk hlt)
      rw [hf, hsteps]
      exact ⟨hstate, Nat.zero_add k, by simp [hlt.ne], fun _ => ⟨f, rfl, hcode⟩⟩
    · have hkn : k = n := le_antisymm hk.1.1 hge
      subst hkn
      obtain ⟨hend, hstate, hsteps⟩ := runFor_of_healthy hk.1.2
      rw [hend, hsteps]
      exact ⟨hstate, Nat.zero_add k, by simp, fun hlt => absurd hlt (Nat.lt_irrefl k)⟩
  · intro hn
    exact run_of_lt (by omega)

/-- The core fails at the first step of an empty program. -/
theorem isGreatest_empty (n : Nat) :
    IsGreatest {k | k ≤ n ∧ ∀ i ≤ k,
      (State.after { memory := Memory.image #[] } i).fault = FaultCode.none} 0 := by
  have hcode := kind_code_of_advance rfl (advance_loaded_empty {} plainJournal)
  have hstep : (State.after { memory := Memory.image #[] } 1).fault ≠ FaultCode.none :=
    fun hnone => Fault.Kind.code_ne_none _ (hcode.trans hnone)
  refine ⟨⟨Nat.zero_le n, fun i hi => ?_⟩, fun k hk => ?_⟩
  · rw [Nat.le_zero.1 hi]
    rfl
  · by_contra hpos
    exact hstep (hk.2 1 (by omega))

theorem run_eq_core_empty :
    State.load? #[] = .ok { memory := Memory.image #[] } ∧
      ∃ m f, load #[] .traced plainJournal = .ok m
        ∧ (m.run 5).1.state = { memory := Memory.image #[] }
        ∧ (m.run 5).1.steps = 0
        ∧ (m.run 5).2 = some (.fault f)
        ∧ f.kind.code = (State.after { memory := Memory.image #[] } 1).fault
        ∧ (State.after { memory := Memory.image #[] } 3).fault ≠ FaultCode.none := by
  have hload : State.load? #[] = .ok { memory := Memory.image #[] } :=
    State.load?_eq_ok_iff.2 ⟨by decide, rfl⟩
  obtain ⟨m, k, hm, hk, hlater, hrun, -⟩ := run_eq_core hload .traced plainJournal 5
  obtain rfl : k = 0 := hk.unique (isGreatest_empty 5)
  obtain ⟨hstate, hsteps, -, hfault⟩ := hrun (by decide)
  obtain ⟨f, hf, hcode⟩ := hfault (by decide)
  obtain ⟨-, -, -, -, hsticky⟩ := hlater (by decide) 3 (by decide)
  exact ⟨hload, m, f, hm, hstate, hsteps, hf, hcode, hsticky⟩

/-- The machine refuses a run that cannot be counted before the step at which the
core fails. -/
theorem long_run_is_no_iteration :
    ∃ s m, State.load? #[] = .ok s ∧ load #[] {} plainJournal = .ok m
      ∧ IsGreatest {k | k ≤ 0x8000000000000000
        ∧ ∀ i ≤ k, (s.after i).fault = FaultCode.none} 0
      ∧ ∀ f, (m.run 0x8000000000000000).2 ≠ some (.fault f) := by
  refine ⟨_, loaded #[] {} plainJournal, State.load?_eq_ok_iff.2 ⟨by decide, rfl⟩,
    load_eq_ok_iff.2 ⟨by decide, rfl⟩, isGreatest_empty _, fun f => ?_⟩
  rw [run_of_lt (by decide)]
  exact fun h => Stop.noConfusion (Option.some.inj h)

end Machine

end Chip8
