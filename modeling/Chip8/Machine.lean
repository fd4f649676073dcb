/-
The machine: a core state that advances one instruction at a time.

`Machine.step` carries out one instruction or fails.  A step that fails leaves
the state as it was and only reports the fault, so that the caller may skip the
instruction or give up.  `Machine.run` repeats steps up to the first fault.

* `step_of_fault` — a failed step changes nothing but the journal;
* `runFor_add` — running `a + b` instructions is running `a` and then `b`;
* `run_of_le` — a run within the limit is so many steps, none for a negative number;
* `step_steps`, `skip_steps` — only a step that succeeds is counted.

Design notes: the core records a fault as a byte, which does not say whether the
fetch or a sprite left memory.  The machine decides that by the address: at an
address whose word does not fit in memory it was the fetch.  What shows how far a run
is, a `Bar`, is not part of the machine but is given to it.  All that a run needs of it
is that it hands on every round.
-/
import Chip8.Execute
import Chip8.Log.Journal

namespace Chip8

/-- What shows how far a loop is.  It stands around the rounds of the loop, and hands on
all of them, whether it is shown or not. -/
structure Bar where
  /-- How many of so many rounds are handed on. -/
  rounds : (shown : Bool) → Nat → Nat
  rounds_eq : ∀ shown n, rounds shown n = n

/-- A bar that cannot be seen. -/
def Bar.hidden : Bar := ⟨fun _ n => n, fun _ _ => rfl⟩

/-- How a machine shows what it does. -/
structure Machine.Config where
  /-- Whether every instruction is traced. -/
  tracing : Bool := false
  /-- Whether a run shows how far it is. -/
  progress : Bool := false
  /-- What shows that. -/
  bar : Bar := Bar.hidden

/-- A machine with a program loaded. -/
structure Machine where
  /-- The state of the core. -/
  state : State
  /-- How many instructions have been carried out. -/
  steps : Nat := 0
  config : Machine.Config
  /-- Where the machine reports. -/
  journal : Log.Journal

namespace Machine

/-- Loads a program.  If it does not fit, the fault is reported, and the journal
is all that remains. -/
def load (rom : Array Byte) (config : Config) (journal : Log.Journal) :
    Except (Fault × Log.Journal) Machine :=
  match State.load? rom with
  | .ok state => .ok { state, config, journal := journal.recordLoad rom.size programStart }
  | .error fault => .error (fault, journal.recordFault fault)

/-- The fault that a fault code stands for, at an address with a word. -/
def faultAt (code : FaultCode) (address word : Nat) : Fault :=
  if code = FaultCode.unimplemented then .unimplemented word address
  else if memorySize ≤ address + 1 then .outOfRange address none
  else .outOfRange address (some (word : Int))

/-- The state after one instruction, with the word, or the fault that stops it. -/
def advance (s : State) : Except Fault (State × Nat) :=
  let (t, word) := s.step
  if t.fault = FaultCode.none then .ok (t, word)
  else .error (faultAt t.fault s.pc.toNat word)

/-- Carries out one instruction. -/
def step (m : Machine) : Machine × Option Fault :=
  match advance m.state with
  | .ok (state, word) =>
    let journal :=
      if m.config.tracing then m.journal.recordStep m.state.pc.toNat word else m.journal
    ({ m with state, steps := m.steps + 1, journal }, none)
  | .error fault => ({ m with journal := m.journal.recordFault fault }, some fault)

/-- Moves past the next instruction without carrying it out. -/
def skip (m : Machine) : Machine :=
  { m with state := { m.state with pc := m.state.pc + 2 } }

/-- Carries out so many instructions, up to the first fault. -/
def runFor : Nat → Machine → Machine × Option Fault
  | 0, m => (m, none)
  | n + 1, m =>
    match m.step with
    | (m, none) => runFor n m
    | (m, some fault) => (m, some fault)

/-- Why a run ends before its last instruction. -/
inductive Stop where
  /-- An instruction has failed. -/
  | fault (fault : Fault)
  /-- More instructions were asked for than a run can count. -/
  | tooLong
deriving DecidableEq, Repr

/-- The largest number of instructions that a run can count. -/
def runLimit : Nat := 0x7FFFFFFFFFFFFFFF

/-- Carries out so many instructions, none for a negative number.  A run that is
too long does not even start. -/
def run (m : Machine) (steps : Int) : Machine × Option Stop :=
  if runLimit < steps then (m, some .tooLong)
  else
    let (m, fault) := runFor (m.config.bar.rounds m.config.progress steps.toNat) m
    (m, fault.map .fault)

/-- The place in a row of `size` that an index stands for: a negative index
counts from the end, and one that is out of bounds is moved to the nearer
end. -/
def place (size : Nat) (i : Int) : Nat :=
  min (if i < 0 then i + size else i).toNat (size - 1)

/-- Whether a pixel is lit, for indices that are 32-bit numbers. -/
def pixel? (m : Machine) (x y : Int) : Option Bool :=
  if FitsSigned32 x ∧ FitsSigned32 y then
    some (m.state.display.get (Fin.ofNat 64 (place 64 x)) (Fin.ofNat 32 (place 32 y)))
  else none

/-! ### Steps and runs -/

theorem step_of_ok {m : Machine} {s : State} {w : Nat} (h : advance m.state = .ok (s, w)) :
    m.step = ({ m with state := s, steps := m.steps + 1, journal :=
      if m.config.tracing then m.journal.recordStep m.state.pc.toNat w else m.journal }, none) := by
  simp [step, h]

theorem step_of_fault {m : Machine} {f : Fault} (h : advance m.state = .error f) :
    m.step = ({ m with journal := m.journal.recordFault f }, some f) := by
  simp [step, h]

theorem step_steps (m : Machine) :
    m.step.1.steps = if m.step.2 = none then m.steps + 1 else m.steps := by
  cases h : advance m.state with
  | ok r => simp [step, h]
  | error f => simp [step, h]

@[simp] theorem skip_steps (m : Machine) : m.skip.steps = m.steps := rfl

@[simp] theorem runFor_zero (m : Machine) : runFor 0 m = (m, none) := rfl

theorem runFor_succ (n : Nat) (m : Machine) :
    runFor (n + 1) m = match m.step.2 with
      | none => runFor n m.step.1
      | some fault => (m.step.1, some fault) := by
  rw [runFor]
  rcases m.step with ⟨m', _ | f⟩ <;> rfl

theorem runFor_add (a b : Nat) (m : Machine) :
    runFor (a + b) m = match (runFor a m).2 with
      | none => runFor b (runFor a m).1
      | some fault => ((runFor a m).1, some fault) := by
  induction a generalizing m with
  | zero => simp
  | succ a ih =>
    rw [Nat.succ_add, runFor_succ, runFor_succ]
    cases m.step.2 with
    | none => exact ih _
    | some fault => rfl

theorem run_of_le {m : Machine} {steps : Int} (h : steps ≤ runLimit) :
    m.run steps = ((runFor steps.toNat m).1, (runFor steps.toNat m).2.map .fault) := by
  simp [run, Int.not_lt.2 h, m.config.bar.rounds_eq]

theorem run_of_lt {m : Machine} {steps : Int} (h : runLimit < steps) :
    m.run steps = (m, some .tooLong) := by
  simp [run, h]

end Machine

end Chip8
