/-
What a machine reports does not disturb what it does.

Two machines with the same program may report as differently as can be: they may trace or
not, have any threshold, colours, times, consoles and clocks, and a journal of their own.
Whatever is asked of them, they go through the same states, give the same answers and fail
in the same way.

* `Machine.Request` — what can be asked of a machine, `Machine.respond` — what comes of
  it, and `Machine.history` — all that is seen of a machine that is asked again and again;
* `Machine.Twin` — that two machines are the same but for what they report;
* `Machine.Twin.step`, `Machine.Twin.perform`, `Machine.Twin.respond` — twins stay twins,
  and respond alike;
* `Machine.reports_do_not_disturb` — so machines of one program have one history, however
  they are set up.

Design notes: a failed step reports its fault and a traced one its instruction before the
new state is in place.  That neither can be seen in the state is the point of the proof of
`Twin.step`; everything else is made of steps.
-/
import Chip8.Proofs.Faults
import Chip8.Session

namespace Chip8

namespace Machine

/-! ### What is asked and what is seen -/

/-- What can be asked of a machine: to go on in some way, or to be looked at. -/
inductive Request where
  | call (call : Call)
  | pixel (x y : Int)
  | render
  | display
  | registers
  | memory
deriving DecidableEq, Repr

/-- What a request is answered with. -/
inductive Answer where
  | done
  | stopped (stop : Stop)
  /-- The place of a pixel is given by numbers that are too large. -/
  | overflow
  | lit (lit : Bool)
  | text (text : String)
  | pixels (display : Display)
  | bytes (bytes : List Byte)
deriving DecidableEq

/-- The machine after a request, and the answer. -/
def respond (m : Machine) : Request → Machine × Answer
  | .call call => ((m.perform call).1, ((m.perform call).2.map .stopped).getD .done)
  | .pixel x y => (m, ((m.pixel? x y).map .lit).getD .overflow)
  | .render => (m, .text m.state.display.render)
  | .display => (m, .pixels m.state.display)
  | .registers => (m, .bytes m.state.registers.toList)
  | .memory => (m, .bytes m.state.memory.toList)

/-- What is seen after each of some requests: the state, the counter of steps, and the
answer. -/
def history (m : Machine) : List Request → List (State × Nat × Answer)
  | [] => []
  | request :: requests =>
    ((m.respond request).1.state, (m.respond request).1.steps, (m.respond request).2)
      :: (m.respond request).1.history requests

/-! ### Twins -/

/-- That two machines differ in what they report at most. -/
structure Twin (m k : Machine) : Prop where
  state : m.state = k.state
  steps : m.steps = k.steps

variable {m k : Machine}

theorem Twin.step (h : m.Twin k) : m.step.1.Twin k.step.1 ∧ m.step.2 = k.step.2 := by
  cases hadv : advance m.state with
  | ok r =>
    -- the journals of the two may take the instruction down or not
    rw [step_of_ok hadv, step_of_ok (h.state ▸ hadv)]
    exact ⟨⟨rfl, congrArg (· + 1) h.steps⟩, rfl⟩
  | error f =>
    rw [step_of_fault hadv, step_of_fault (h.state ▸ hadv)]
    exact ⟨⟨h.state, h.steps⟩, rfl⟩

theorem Twin.runFor (h : m.Twin k) (n : Nat) :
    (runFor n m).1.Twin (runFor n k).1 ∧ (runFor n m).2 = (runFor n k).2 := by
  induction n generalizing m k with
  | zero => exact ⟨h, rfl⟩
  | succ n ih =>
    obtain ⟨hnext, hend⟩ := h.step
    rw [runFor_succ, runFor_succ, hend]
    cases k.step.2 with
    | none => exact ih hnext
    | some f => exact ⟨hnext, rfl⟩

theorem Twin.perform (h : m.Twin k) (call : Call) :
    (m.perform call).1.Twin (k.perform call).1 ∧ (m.perform call).2 = (k.perform call).2 := by
  cases call with
  | step => exact ⟨h.step.1, congrArg (Option.map Stop.fault) h.step.2⟩
  | skip =>
    refine ⟨⟨?_, h.steps⟩, rfl⟩
    show { m.state with pc := m.state.pc + 2 } = { k.state with pc := k.state.pc + 2 }
    rw [h.state]
  | run steps =>
    show (m.run steps).1.Twin (k.run steps).1 ∧ (m.run steps).2 = (k.run steps).2
    by_cases hlimit : runLimit < steps
    · rw [run_of_lt hlimit, run_of_lt hlimit]
      exact ⟨h, rfl⟩
    · rw [run_of_le (Int.not_lt.1 hlimit), run_of_le (Int.not_lt.1 hlimit)]
      obtain ⟨hnext, hend⟩ := h.runFor steps.toNat
      exact ⟨hnext, congrArg (Option.map Stop.fault) hend⟩

theorem Twin.respond (h : m.Twin k) (request : Request) :
    (m.respond request).1.Twin (k.respond request).1
      ∧ (m.respond request).2 = (k.respond request).2 := by
  cases request with
  | call call =>
    obtain ⟨hnext, hend⟩ := h.perform call
    refine ⟨hnext, ?_⟩
    rw [Machine.respond, Machine.respond, hend]
  | pixel x y =>
    refine ⟨h, ?_⟩
    rw [Machine.respond, Machine.respond, pixel?, pixel?, h.state]
  | _ =>
    refine ⟨h, ?_⟩
    rw [Machine.respond, Machine.respond, h.state]

theorem Twin.history (h : m.Twin k) (requests : List Request) :
    m.history requests = k.history requests := by
  induction requests generalizing m k with
  | nil => rfl
  | cons request requests ih =>
    obtain ⟨hnext, hanswer⟩ := h.respond request
    rw [Machine.history, Machine.history, hnext.state, hnext.steps, hanswer, ih hnext]

/-! ### Machines of one program -/

/-- What a machine is built with beside its program: settings, what shows how far a run
is, a journal if it is given one of its own, and else the console that its journal is to be
opened on. -/
structure Setup where
  settings : Settings
  bar : Bar := Bar.hidden
  journal : Option Log.Journal := none
  console : Log.Console

/-- The machine of a program, as it is set up. -/
def Setup.load (setup : Setup) (rom : Array Byte) : Except (Fault × Log.Journal) Machine :=
  Machine.load rom (setup.settings.machineConfig setup.bar)
    (setup.journal.getD (setup.settings.journal setup.console))

/-- **Reports do not disturb.**  A program is loaded by both of two setups or by none, and
is refused with the same fault.  The two machines are in the same state from the start and
after every request, have made as many steps, and give the same answers. -/
theorem reports_do_not_disturb (rom : Array Byte) (a b : Setup) :
    match a.load rom, b.load rom with
    | .ok m, .ok k => m.state = k.state ∧ m.steps = k.steps
        ∧ ∀ requests, m.history requests = k.history requests
    | .error (f, _), .error (g, _) => f = g
    | _, _ => False := by
  unfold Setup.load load
  cases State.load? rom with
  | ok state => exact ⟨rfl, rfl, Twin.history ⟨rfl, rfl⟩⟩
  | error f => rfl

end Machine

end Chip8
