/-
Sequences of calls, and what holds after every one of them.

A program that owns a machine may call `step`, `skip` and `run` in any order, and
go on after a fault.  `Machine.after` is the machine that a list of calls leaves
behind, and `Machine.outcomes` how the single steps made on the way have ended.

* `Machine.after_invariant` — what a step and a skip preserve holds after all
  calls;
* `Machine.Healthy` — no fault is recorded, and the address register has twelve
  bits; `Machine.healthy_after` — this is so after all calls;
* `Machine.steps_after` — the counter of steps counts the steps that returned;
* `Machine.invariant_after_calls` — all that is the same, or bounded, after every
  sequence of calls.

Design notes: a skip is not checked, so it can carry the program counter out of
the twelve-bit range.  Without skips it stays inside: a fetch that succeeds ends
at most one past the last word, and the targets of jumps have twelve bits.
-/
import Chip8.Proofs.Step

namespace Chip8

namespace Machine

/-- A call that can be made of a machine. -/
inductive Call where
  /-- Carries out one instruction. -/
  | step
  /-- Moves past an instruction. -/
  | skip
  /-- Carries out a number of instructions. -/
  | run (steps : Int)
deriving DecidableEq, Repr

/-- The machine after a call, and why the call has failed, if it has. -/
def perform (m : Machine) : Call → Machine × Option Stop
  | .step => (m.step.1, m.step.2.map .fault)
  | .skip => (m.skip, none)
  | .run steps => m.run steps

/-- The machine after some calls, whether they have failed or not. -/
def after (m : Machine) (calls : List Call) : Machine :=
  calls.foldl (fun m call => (m.perform call).1) m

/-- How the steps of a run end: all of them return but the last, which may fail. -/
def runOutcomes : Nat → Machine → List (Option Fault)
  | 0, _ => []
  | n + 1, m => m.step.2 :: if m.step.2 = none then runOutcomes n m.step.1 else []

/-- How the steps that a call makes end. -/
def callOutcomes (m : Machine) : Call → List (Option Fault)
  | .step => [m.step.2]
  | .skip => []
  | .run steps => if runLimit < steps then [] else runOutcomes steps.toNat m

/-- How all the steps that some calls make end, in order. -/
def outcomes (m : Machine) : List Call → List (Option Fault)
  | [] => []
  | call :: calls => m.callOutcomes call ++ (m.perform call).1.outcomes calls

@[simp] theorem after_nil (m : Machine) : m.after [] = m := rfl

@[simp] theorem after_cons (m : Machine) (call : Call) (calls : List Call) :
    m.after (call :: calls) = (m.perform call).1.after calls := rfl

/-! ### Invariants -/

section Invariants

variable {P : Machine → Prop}

theorem runFor_invariant (hstep : ∀ m, P m → P m.step.1) (n : Nat) {m : Machine} (h : P m) :
    P (runFor n m).1 := by
  induction n generalizing m with
  | zero => exact h
  | succ n ih =>
    rw [runFor_succ]
    cases m.step.2 with
    | none => exact ih (hstep m h)
    | some fault => exact hstep m h

theorem run_invariant (hstep : ∀ m, P m → P m.step.1) (steps : Int) {m : Machine} (h : P m) :
    P (m.run steps).1 := by
  by_cases hlimit : runLimit < steps
  · rw [run_of_lt hlimit]
    exact h
  · rw [run_of_le (Int.not_lt.1 hlimit)]
    exact runFor_invariant hstep _ h

/-- What every step preserves, and every skip if there is one, holds after all
calls. -/
theorem after_invariant (hstep : ∀ m, P m → P m.step.1) (calls : List Call)
    (hskip : Call.skip ∈ calls → ∀ m, P m → P m.skip) {m : Machine} (h : P m) :
    P (m.after calls) := by
  induction calls generalizing m with
  | nil => exact h
  | cons call calls ih =>
    rw [after_cons]
    apply ih (fun hmem => hskip (List.mem_cons_of_mem _ hmem))
    cases call with
    | step => exact hstep m h
    | skip => exact hskip List.mem_cons_self m h
    | run steps => exact run_invariant hstep steps h

end Invariants

/-! ### Healthy machines -/

/-- A machine that is in order: no fault is recorded, so that its steps are not
suppressed, and its address register has twelve bits. -/
structure Healthy (m : Machine) : Prop where
  fault : m.state.fault = FaultCode.none
  index : m.state.index.toNat ≤ addressMask

theorem Healthy.step {m : Machine} (h : m.Healthy) : m.step.1.Healthy := by
  rcases step_cases h.fault with ⟨-, hr, hstep⟩ | ⟨f, -, hstep⟩
  · rw [hstep]
    have hindex : m.state.moveOn.index.toNat ≤ addressMask := h.index
    constructor
    · rw [commit_state, State.exec_moveOn_fault hr]
      exact h.fault
    · exact State.exec_index_le hindex _
  · -- the state that records the fault is not kept
    rw [hstep]
    exact ⟨h.fault, h.index⟩

theorem Healthy.skip {m : Machine} (h : m.Healthy) : m.skip.Healthy :=
  ⟨h.fault, h.index⟩

/-- The machine that starts a program. -/
def loaded (rom : Array Byte) (config : Config) (journal : Log.Journal) : Machine where
  state := { memory := Memory.image rom }
  config := config
  journal := journal.recordLoad rom.size programStart

theorem load_eq_ok_iff {rom : Array Byte} {config : Config} {journal : Log.Journal} {m : Machine} :
    load rom config journal = .ok m ↔
      programStart + rom.size ≤ memorySize ∧ m = loaded rom config journal := by
  rw [load, State.load?]
  by_cases h : programStart + rom.size ≤ memorySize
  · rw [if_pos h]
    constructor
    · intro hm
      exact ⟨h, (Except.ok.inj hm).symm⟩
    · rintro ⟨-, rfl⟩
      rfl
  · rw [if_neg h]
    constructor
    · intro hm
      exact absurd hm (by simp)
    · rintro ⟨hle, -⟩
      exact absurd hle h

theorem healthy_loaded (rom : Array Byte) (config : Config) (journal : Log.Journal) :
    (loaded rom config journal).Healthy :=
  ⟨rfl, Nat.zero_le _⟩

/-- The journal of the default settings, on a console whose clock stands still. -/
def plainJournal : Log.Journal :=
  Log.Journal.create { name := "Machine" } { clock := Log.Clock.stopped 0 }

/-- That instructions are traced and that runs show how far they are. -/
def Config.traced : Config where
  tracing := true
  progress := true

/-- A program that jumps to itself. -/
def selfJump : Array Byte := #[0x12, 0x00]

theorem wordAt_image_empty (a : Nat) : (Memory.image #[]).wordAt a = 0 := by
  rw [Memory.wordAt, Memory.byteAt_image (by decide), Memory.byteAt_image (by decide)]
  simp

/-- An empty program fails at its first word. -/
theorem advance_loaded_empty (config : Config) (journal : Log.Journal) :
    advance (loaded #[] config journal).state = .error (.unimplemented 0 0x200) := by
  have hword : (loaded #[] config journal).state.word = 0 := wordAt_image_empty _
  have hfits : (loaded #[] config journal).state.Fits := by
    show (UInt16.ofNat 0x200).toNat + 1 < 4095
    decide
  have hr : (loaded #[] config journal).state.refusal
      (Instruction.ofWord (loaded #[] config journal).state.word) = some .unimplemented := by
    rw [hword]
    rfl
  rw [advance_of_refusal rfl hfits hr, hword]
  rfl

theorem step_outcome_loaded_empty (config : Config) (journal : Log.Journal) :
    (loaded #[] config journal).step.2 = some (.unimplemented 0 0x200) := by
  rw [step_of_fault (advance_loaded_empty config journal)]

theorem word_loaded_selfJump (config : Config) (journal : Log.Journal) :
    (loaded selfJump config journal).state.word = 0x1200 := by
  show (Memory.image selfJump).wordAt 0x200 = 0x1200
  rw [Memory.wordAt, Memory.byteAt_image (by decide), Memory.byteAt_image (by decide)]
  rfl

/-- A program that jumps to itself comes back to the state it started in. -/
theorem step_loaded_selfJump (config : Config) (journal : Log.Journal) :
    (loaded selfJump config journal).state.step
      = ((loaded selfJump config journal).state, 0x1200) := by
  have hfits : (loaded selfJump config journal).state.Fits := by
    show (UInt16.ofNat 0x200).toNat + 1 < 4095
    decide
  have hjump : Instruction.ofWord 0x1200 = .jump 0x200 := by decide
  rw [State.step_of_fits rfl hfits, word_loaded_selfJump]
  show (State.exec _ (Instruction.ofWord 0x1200), _) = _
  rw [hjump]
  rfl

theorem advance_loaded_selfJump (config : Config) (journal : Log.Journal) :
    advance (loaded selfJump config journal).state
      = .ok ((loaded selfJump config journal).state, 0x1200) := by
  rw [advance_eq, step_loaded_selfJump]
  rfl

theorem Healthy.after {m : Machine} (h : m.Healthy) (calls : List Call) :
    (m.after calls).Healthy :=
  after_invariant (P := Healthy) (fun _ => Healthy.step) calls (fun _ _ => Healthy.skip) h

/-! ### Memory, counters and the program counter -/

theorem step_memory (m : Machine) : m.step.1.state.memory = m.state.memory := by
  by_cases hf : m.state.step.1.fault = FaultCode.none
  · rw [step_of_ok (by rw [advance_eq, if_pos hf])]
    exact m.state.step_memory
  · rw [step_of_fault (by rw [advance_eq, if_neg hf])]

theorem after_memory (m : Machine) (calls : List Call) :
    (m.after calls).state.memory = m.state.memory := by
  apply after_invariant (P := fun k => k.state.memory = m.state.memory)
  · intro k hk
    rw [step_memory, hk]
  · intro _ k hk
    exact hk
  · rfl

theorem step_config (m : Machine) : m.step.1.config = m.config := by
  cases hadv : advance m.state with
  | ok r => rw [step_of_ok hadv]
  | error f => rw [step_of_fault hadv]

theorem step_traced (m : Machine) :
    m.step.1.journal.traced + (if m.config.tracing then m.steps else 0)
      = m.journal.traced + (if m.config.tracing then m.step.1.steps else 0) := by
  cases hadv : advance m.state with
  | ok r =>
    rw [step_of_ok hadv]
    cases m.config.tracing with
    | true =>
      simp only [if_true, Log.Journal.traced_recordStep]
      omega
    | false => rfl
  | error f =>
    rw [step_of_fault hadv]
    rfl

/-- Each step that returns is traced once if steps are traced at all. -/
theorem after_traced (m : Machine) (calls : List Call) :
    (m.after calls).journal.traced + (if m.config.tracing then m.steps else 0)
      = m.journal.traced + (if m.config.tracing then (m.after calls).steps else 0) := by
  -- the configuration has to be carried along, for the counter depends on it
  have hall : (m.after calls).config = m.config ∧
      (m.after calls).journal.traced + (if m.config.tracing then m.steps else 0)
        = m.journal.traced + (if m.config.tracing then (m.after calls).steps else 0) := by
    apply after_invariant (P := fun k => k.config = m.config ∧
      k.journal.traced + (if m.config.tracing then m.steps else 0)
        = m.journal.traced + (if m.config.tracing then k.steps else 0))
    · rintro k ⟨hconfig, htraced⟩
      have hk := step_traced k
      rw [hconfig] at hk
      exact ⟨(step_config k).trans hconfig, by omega⟩
    · rintro - k hk
      exact hk
    · exact ⟨rfl, rfl⟩
  exact hall.2

/-! ### The counter of steps -/

theorem steps_runFor (n : Nat) (m : Machine) :
    (runFor n m).1.steps = m.steps + (runOutcomes n m).count none := by
  induction n generalizing m with
  | zero => rfl
  | succ n ih =>
    rw [runFor_succ, runOutcomes]
    have hstep := step_steps m
    cases hm : m.step.2 with
    | none =>
      rw [hm, if_pos rfl] at hstep
      show (runFor n m.step.1).1.steps = _
      rw [ih, hstep, if_pos rfl, List.count_cons_self]
      omega
    | some f =>
      -- the step that fails is the last one, and leaves the counter alone
      rw [hm, if_neg (by simp)] at hstep
      rw [if_neg (by simp), List.count_cons_of_ne (by simp), List.count_nil]
      exact hstep

theorem steps_perform (m : Machine) (call : Call) :
    (m.perform call).1.steps = m.steps + (m.callOutcomes call).count none := by
  cases call with
  | step =>
    show m.step.1.steps = _
    rw [step_steps, callOutcomes, List.count_singleton]
    cases m.step.2 with
    | none => rfl
    | some f => rfl
  | skip => rfl
  | run steps =>
    show (m.run steps).1.steps = m.steps + (if _ then _ else _ : List _).count none
    by_cases hlimit : runLimit < steps
    · rw [run_of_lt hlimit, if_pos hlimit]
      rfl
    · rw [run_of_le (Int.not_lt.1 hlimit), if_neg hlimit]
      exact steps_runFor _ m

/-- The counter counts the steps that have returned, and no others. -/
theorem steps_after (m : Machine) (calls : List Call) :
    (m.after calls).steps = m.steps + (m.outcomes calls).count none := by
  induction calls generalizing m with
  | nil => rfl
  | cons call calls ih =>
    rw [after_cons, ih, steps_perform, outcomes, List.count_append]
    omega

/-! ### The program counter -/

theorem Healthy.step_pc_le {m : Machine} (h : m.Healthy) (hpc : m.state.pc.toNat ≤ addressMask) :
    m.step.1.state.pc.toNat ≤ addressMask := by
  rcases step_cases h.fault with ⟨hfits, -, hstep⟩ | ⟨f, -, hstep⟩
  · rw [hstep]
    -- a word that fits ends at 4094, so the counter is at most 4095 before a jump sets it
    have hlt : m.state.pc.toNat + 1 < 4095 := hfits
    have hmove : m.state.moveOn.pc.toNat ≤ addressMask := by
      rw [State.toNat_moveOn_pc hfits, addressMask]
      omega
    exact State.exec_pc_le hmove _
  · rw [hstep]
    exact hpc

/-- Without skips the program counter keeps to twelve bits. -/
theorem Healthy.after_pc_le {m : Machine} (h : m.Healthy) (hpc : m.state.pc.toNat ≤ addressMask)
    {calls : List Call} (hskip : Call.skip ∉ calls) :
    (m.after calls).state.pc.toNat ≤ addressMask := by
  have hall : (m.after calls).Healthy ∧ (m.after calls).state.pc.toNat ≤ addressMask := by
    apply after_invariant (P := fun k => k.Healthy ∧ k.state.pc.toNat ≤ addressMask)
    · rintro k ⟨hk, hkpc⟩
      exact ⟨hk.step, hk.step_pc_le hkpc⟩
    · intro hmem
      exact absurd hmem hskip
    · exact ⟨h, hpc⟩
  exact hall.2

/-! ### The invariant of all calls -/

/-- What holds of the machine of a program whose steps so far have ended in some
way. -/
structure Invariant (rom : Array Byte) (config : Config) (ended : List (Option Fault))
    (m : Machine) : Prop where
  /-- Memory is as it was loaded. -/
  memory : ∀ a, m.state.memory.byteAt a = if 0x200 ≤ a then rom[a - 0x200]?.getD 0 else 0
  /-- No fault is recorded. -/
  fault : m.state.fault = FaultCode.none
  /-- The address register has twelve bits. -/
  index : m.state.index.toNat ≤ 0xFFF
  /-- The screen has 64 columns of 32 pixels. -/
  screen : m.state.display.columns.toList.length = 64
    ∧ ∀ column ∈ m.state.display.columns.toList, column.toList.length = 32
  /-- There are sixteen registers, which hold bytes. -/
  registers : m.state.registers.toList.length = 16
    ∧ ∀ value ∈ m.state.registers.toList, value.toNat < 256
  /-- The steps that have returned are counted. -/
  steps : m.steps = ended.count none
  /-- They are traced all or none, whatever is printed. -/
  traced : m.journal.traced = if config.tracing then m.steps else 0

/-- **The invariant of all calls.**  After any calls, failed or not, of the
machine of any program, its memory is as it was loaded, no fault is recorded, all
numbers are in range, and the counters are exact; and if nothing was skipped, the
program counter has twelve bits. -/
theorem invariant_after_calls {rom : Array Byte} {config : Config} {options : Log.Options}
    {console : Log.Console} {m : Machine}
    (h : load rom config (Log.Journal.create options console) = .ok m) (calls : List Call) :
    Invariant rom config (m.outcomes calls) (m.after calls)
      ∧ (Call.skip ∉ calls → (m.after calls).state.pc.toNat ≤ 0xFFF) := by
  obtain ⟨hfits, rfl⟩ := load_eq_ok_iff.1 h
  have hhealthy := healthy_loaded rom config (Log.Journal.create options console)
  have hsteps := steps_after (loaded rom config (Log.Journal.create options console)) calls
  have htraced := after_traced (loaded rom config (Log.Journal.create options console)) calls
  have hafter := hhealthy.after calls
  refine ⟨⟨?_, hafter.fault, hafter.index, ?_, ?_, ?_, ?_⟩, ?_⟩
  · intro a
    rw [after_memory]
    exact Memory.byteAt_image hfits a
  · exact ⟨by simp, by simp⟩
  · exact ⟨by simp, fun value _ => value.toNat_lt⟩
  · rw [hsteps]
    exact Nat.zero_add _
  · -- the machine is loaded with both counters at zero
    change _ + (if config.tracing then 0 else 0) = 0 + (if config.tracing then _ else 0) at htraced
    rw [ite_self, Nat.add_zero, Nat.zero_add] at htraced
    exact htraced
  · have hstart : (UInt16.ofNat programStart).toNat ≤ addressMask := by decide
    exact hhealthy.after_pc_le hstart

theorem invariant_after_calls_selfJump :
    load selfJump .traced plainJournal = .ok (loaded selfJump .traced plainJournal)
      ∧ Invariant selfJump .traced
        ((loaded selfJump .traced plainJournal).outcomes [.step, .run 3])
        ((loaded selfJump .traced plainJournal).after [.step, .run 3])
      ∧ Call.skip ∉ [Call.step, .run 3]
      ∧ ((loaded selfJump .traced plainJournal).after [.step, .run 3]).state.pc.toNat ≤ 0xFFF := by
  have hload : load selfJump .traced plainJournal = .ok (loaded selfJump .traced plainJournal) :=
    load_eq_ok_iff.2 ⟨by decide, rfl⟩
  have hskip : Call.skip ∉ [Call.step, .run 3] := by decide
  exact ⟨hload, (invariant_after_calls hload _).1, hskip, (invariant_after_calls hload _).2 hskip⟩

end Machine

end Chip8
