/-
A plain interpreter, and the machine as an implementation of it.

`Reference` is an interpreter on numbers that works through one word after the
other: it splits a word by division, computes modulo 256 where a register is set,
and draws with two nested loops.  It knows no fault codes; an iteration either
gives the next state, or stops with the kind of a fault and gives none.

* `Reference.iterate` — one iteration; `Reference.run` — up to so many;
* `State.view` — the state of the core as the interpreter sees it;
  `State.view_injective` says that nothing is lost but the fault code;
* `State.iterate_view` — an iteration is a step of the machine;
* `Machine.runFor_view` — iterations are a run;
* `Machine.run_eq_reference` — a program run by the machine ends like the same
  program run by the interpreter, in the same state and after as many steps;
* `Machine.long_run_is_no_reference_run` — except that the machine refuses a run
  that is too long to be counted.

Design notes: an iteration that stops gives no state, so what it has read or
moved before it stops is never seen, and the program counter stays at the word
that could not be carried out.
-/
import Chip8.Proofs.Calls
import Chip8.Proofs.Raster

namespace Chip8

/-- What the interpreter works on. -/
@[ext] structure Reference where
  memory : Nat → Nat
  V : Register → Nat
  pc : Nat
  I : Nat
  display : Display

namespace Reference

/-- The state in which a program starts. -/
def start (rom : Array Byte) : Reference where
  memory a := if 0x200 ≤ a then (rom[a - 0x200]?.getD 0).toNat else 0
  V _ := 0
  pc := 0x200
  I := 0
  display := Display.blank

/-- The state with one register set. -/
def setV (c : Reference) (x : Register) (value : Nat) : Reference :=
  { c with V := fun r => if r = x then value else c.V r }

/-- Draws a sprite, row by row and bit by bit, unless a row that lands on the
screen is outside memory. -/
def draw (c : Reference) (x y : Register) (n : Nat) : Except Fault.Kind Reference :=
  let x0 := c.V x % 64
  let y0 := c.V y % 32
  if ∃ r < n, y0 + r < 32 ∧ 4095 ≤ c.I + r then .error .outOfRange
  else
    let canvas := Canvas.drawRows c.memory c.I x0 y0 n { display := c.display }
    .ok { c.setV flagRegister (if canvas.collision then 1 else 0) with display := canvas.display }

/-- Carries out a word. -/
def apply (c : Reference) (w : Nat) : Except Fault.Kind Reference :=
  let x := nibble (w / 0x100)
  let y := nibble (w / 0x10)
  match w / 0x1000 with
  | 0x0 => if w = 0x00E0 then .ok { c with display := Display.blank } else .error .unimplemented
  | 0x1 => .ok { c with pc := w % 0x1000 }
  | 0x6 => .ok (c.setV x (w % 0x100))
  | 0x7 => .ok (c.setV x ((c.V x + w % 0x100) % 256))
  | 0xA => .ok { c with I := w % 0x1000 }
  | 0xD => c.draw x y (w % 0x10)
  | _ => .error .unimplemented

/-- Takes the word at the program counter, moves past it and carries it out. -/
def iterate (c : Reference) : Except Fault.Kind Reference :=
  if 4095 ≤ c.pc + 1 then .error .outOfRange
  else { c with pc := c.pc + 2 }.apply (256 * c.memory c.pc + c.memory (c.pc + 1))

/-- Carries out an instruction, for a word that has been read already. -/
def exec (c : Reference) : Instruction → Except Fault.Kind Reference
  | .clear => .ok { c with display := Display.blank }
  | .jump target => .ok { c with pc := target.val }
  | .set x value => .ok (c.setV x value.val)
  | .add x value => .ok (c.setV x ((c.V x + value.val) % 256))
  | .setIndex target => .ok { c with I := target.val }
  | .draw x y height => c.draw x y height.val
  | .unknown => .error .unimplemented

/-- The two ways to tell words apart agree. -/
theorem apply_eq_exec (c : Reference) {w : Nat} (hw : w < 65536) :
    c.apply w = c.exec (Instruction.ofWord w) := by
  obtain ⟨f, hf⟩ := Instruction.exists_family hw
  rw [Instruction.ofWord_of_family hf, apply, hf]
  by_cases h0 : f = 0
  · -- here the word itself is compared, as a number and as an integer
    subst h0
    show (if w = 0x00E0 then _ else _) = c.exec (if (w : Int) = 0x00E0 then _ else _)
    by_cases hw0 : w = 0x00E0
    · rw [if_pos hw0, if_pos (by omega)]
      rfl
    · rw [if_neg hw0, if_neg (by omega)]
      rfl
  · revert h0
    fin_cases f <;>
      simp [Operation.ofFamily, Operation.read, exec, Fields.ofWord_natCast]

/-- How a run of the interpreter ends. -/
structure Result where
  /-- The last state. -/
  state : Reference
  /-- How many words have been carried out. -/
  steps : Nat
  /-- Why the run has stopped, if it has. -/
  stopped : Option Fault.Kind

/-- Iterates up to so many times. -/
def run : Nat → Reference → Result
  | 0, c => { state := c, steps := 0, stopped := none }
  | n + 1, c =>
    match c.iterate with
    | .ok d => { run n d with steps := (run n d).steps + 1 }
    | .error kind => { state := c, steps := 0, stopped := some kind }

end Reference

namespace State

/-- The state as the interpreter sees it. -/
def view (s : State) : Reference where
  memory a := (s.memory.byteAt a).toNat
  V r := (s.register r).toNat
  pc := s.pc.toNat
  I := s.index.toNat
  display := s.display

theorem view_image {rom : Array Byte} (h : programStart + rom.size ≤ memorySize) :
    view { memory := Memory.image rom } = Reference.start rom := by
  ext a
  · simp only [view, Reference.start, Memory.byteAt_image h]
    split <;> rfl
  · simp [view, register, Reference.start]
  · rfl
  · rfl
  · rfl

theorem view_setRegister (s : State) (x : Register) (v : Byte) :
    (s.setRegister x v).view = s.view.setV x v.toNat := by
  have hV (r : Register) : ((s.setRegister x v).register r).toNat
      = if r = x then v.toNat else (s.register r).toNat := by
    rw [register, setRegister, register, Fin.getElem_fin, Vector.getElem_set, Fin.getElem_fin]
    by_cases hr : r = x
    · rw [if_pos (by rw [hr]), if_pos hr]
    · rw [if_neg (fun h => hr (Fin.ext h.symm)), if_neg hr]
  ext r
  · rfl
  · exact hV r
  · rfl
  · rfl
  · rfl

theorem toNat_ofNat_byte (value : Fin 256) : (UInt8.ofNat value.val).toNat = value.val := by
  rw [UInt8.toNat_ofNat']
  omega

/-- A draw of the interpreter is a draw of the core. -/
theorem draw_view {s : State} (hI : s.index.toNat ≤ addressMask) (x y : Register) (n : Fin 16) :
    s.view.draw x y n.val =
      match s.refusal (.draw x y n) with
      | none => .ok (s.draw x y n).view
      | some kind => .error kind := by
  have hout := refusal_draw_iff hI x y n
  by_cases hrow : ∃ r < n.val, (s.register y).toNat % 32 + r < 32 ∧ 4095 ≤ s.index.toNat + r
  · rw [hout.2 hrow]
    exact if_pos hrow
  · have hr : s.refusal (.draw x y n) = none := by
      rw [refusal_draw_eq_none_iff, ← Nat.not_lt]
      intro hlt
      exact hrow (hout.1 (if_neg (Nat.not_le.2 hlt)))
    have hflag (b : Bool) : (if b then (1 : Byte) else 0).toNat = if b then 1 else 0 := by
      cases b <;> rfl
    have hview (canvas : Canvas) :
        ({ s with display := canvas.display }.setRegister flagRegister
          (if canvas.collision then 1 else 0)).view
        = { s.view.setV flagRegister (if canvas.collision then 1 else 0) with
            display := canvas.display } := by
      rw [view_setRegister, hflag]
      rfl
    rw [hr, draw_eq_drawRows hr]
    show s.view.draw x y n.val = .ok (view _)
    rw [hview]
    exact if_neg hrow

/-- Carrying an instruction out in the interpreter is carrying it out in the
core. -/
theorem exec_view {s : State} (hI : s.index.toNat ≤ addressMask) (i : Instruction) :
    s.view.exec i =
      match s.refusal i with
      | none => .ok (s.exec i).view
      | some kind => .error kind := by
  cases i with
  | clear => rfl
  | jump target =>
    show Except.ok _ = Except.ok { s.view with pc := (UInt16.ofNat target.val).toNat }
    rw [toNat_ofNat_address]
  | set x value =>
    rw [exec, view_setRegister, toNat_ofNat_byte]
    rfl
  | add x value =>
    rw [exec, view_setRegister, UInt8.toNat_add, toNat_ofNat_byte]
    rfl
  | setIndex target =>
    show Except.ok _ = Except.ok { s.view with I := (UInt16.ofNat target.val).toNat }
    rw [toNat_ofNat_address]
  | draw x y n => exact draw_view hI x y n
  | unknown => rfl

/-- **An iteration of the interpreter is a step of the machine.** -/
theorem iterate_view {s : State} (hf : s.fault = FaultCode.none) (hI : s.index.toNat ≤ addressMask) :
    s.view.iterate =
      match Machine.advance s with
      | .ok (t, _) => .ok t.view
      | .error f => .error f.kind := by
  by_cases hfits : s.Fits
  · have hnot : ¬ 4095 ≤ s.view.pc + 1 := Nat.not_le.2 hfits
    -- a counter inside memory does not wrap
    have hmove : { s.view with pc := s.view.pc + 2 } = s.moveOn.view := by
      show { s.view with pc := s.pc.toNat + 2 } = _
      rw [← toNat_moveOn_pc hfits]
      rfl
    have hindex : s.moveOn.index.toNat ≤ addressMask := hI
    rw [Reference.iterate, if_neg hnot, hmove]
    show s.moveOn.view.apply s.word = _
    rw [Reference.apply_eq_exec _ s.word_lt, exec_view hindex, refusal_moveOn]
    cases hr : s.refusal (Instruction.ofWord s.word) with
    | none => rw [Machine.advance_of_refusal_none hf hfits hr]
    | some kind =>
      rw [Machine.advance_of_refusal hf hfits hr]
      cases kind <;> rfl
  · have hout : 4095 ≤ s.view.pc + 1 := Nat.not_lt.1 hfits
    rw [Reference.iterate, if_pos hout, Machine.advance_of_not_fits hfits]
    rfl

/-- Two states that look alike differ in their fault codes at most. -/
theorem view_injective {s t : State} (hfault : s.fault = t.fault) (h : s.view = t.view) : s = t := by
  have hmemory : s.memory = t.memory := by
    apply Vector.ext
    intro a ha
    have hbyte : s.memory.byteAt a = t.memory.byteAt a :=
      UInt8.toNat_inj.1 (congrFun (congrArg Reference.memory h) a)
    rw [Memory.byteAt, Memory.byteAt, Vector.getElem?_eq_getElem ha,
      Vector.getElem?_eq_getElem ha] at hbyte
    exact hbyte
  have hregisters : s.registers = t.registers := by
    apply Vector.ext
    intro r hr
    exact UInt8.toNat_inj.1 (congrFun (congrArg Reference.V h) ⟨r, hr⟩)
  have hpc : s.pc = t.pc := UInt16.toNat_inj.1 (congrArg Reference.pc h)
  have hindex : s.index = t.index := UInt16.toNat_inj.1 (congrArg Reference.I h)
  have hdisplay : s.display = t.display := congrArg Reference.display h
  cases s
  cases t
  simp_all

end State

namespace Machine

/-! ### Runs -/

/-- **Iterations of the interpreter are a run of the machine.** -/
theorem runFor_view (n : Nat) {m : Machine} (h : m.Healthy) :
    (runFor n m).1.state.view = (Reference.run n m.state.view).state
      ∧ (runFor n m).1.steps = m.steps + (Reference.run n m.state.view).steps
      ∧ (runFor n m).2.map Fault.kind = (Reference.run n m.state.view).stopped := by
  induction n generalizing m with
  | zero => exact ⟨rfl, rfl, rfl⟩
  | succ n ih =>
    have hiterate := State.iterate_view h.fault h.index
    rw [runFor_succ, Reference.run, hiterate]
    cases hadv : advance m.state with
    | ok r =>
      obtain ⟨hview, hsteps, hstopped⟩ := ih h.step
      rw [step_of_ok hadv] at hview hsteps hstopped ⊢
      refine ⟨hview, ?_, hstopped⟩
      have hcount : m.steps + 1 + (Reference.run n r.1.view).steps
          = m.steps + ((Reference.run n r.1.view).steps + 1) := by omega
      exact hsteps.trans hcount
    | error f =>
      -- both stop, and keep the state before the word
      rw [step_of_fault hadv]
      exact ⟨rfl, rfl, rfl⟩

/-- That a run of the machine ends like a run of the interpreter: in the same
state, after as many steps, and in the same way. -/
structure EndsLike (r : Machine × Option Stop) (c : Reference.Result) : Prop where
  state : r.1.state.view = c.state
  steps : r.1.steps = c.steps
  stopped : ∃ fault : Option Fault, r.2 = fault.map .fault ∧ fault.map Fault.kind = c.stopped

/-- **The machine implements the interpreter.**  A program that fits is loaded,
and its run ends like as many iterations of the interpreter on it.  The machine
refuses a run that is too long to be counted, before the first step. -/
theorem run_eq_reference {rom : Array Byte} (h : 0x200 + rom.size ≤ 4095) (config : Config)
    (journal : Log.Journal) (n : Nat) :
    ∃ m, load rom config journal = .ok m
      ∧ (n ≤ runLimit → EndsLike (m.run n) (Reference.run n (Reference.start rom)))
      ∧ (runLimit < n → m.run n = (m, some .tooLong)) := by
  refine ⟨loaded rom config journal, load_eq_ok_iff.2 ⟨h, rfl⟩, fun hn => ?_, fun hn => ?_⟩
  · obtain ⟨hview, hsteps, hstopped⟩ := runFor_view n (healthy_loaded rom config journal)
    have hstart : (loaded rom config journal).state.view = Reference.start rom :=
      State.view_image h
    rw [hstart] at hview hsteps hstopped
    rw [run_of_le (by omega), Int.toNat_natCast]
    exact ⟨hview, hsteps.trans (Nat.zero_add _), _, rfl, hstopped⟩
  · exact run_of_lt (by omega)

theorem run_eq_reference_selfJump :
    0x200 + selfJump.size ≤ 4095 ∧
      ∃ m, load selfJump .traced plainJournal = .ok m
        ∧ EndsLike (m.run 5) (Reference.run 5 (Reference.start selfJump)) := by
  have hfits : 0x200 + selfJump.size ≤ 4095 := by decide
  obtain ⟨m, hload, hends, -⟩ := run_eq_reference hfits .traced plainJournal 5
  exact ⟨hfits, m, hload, hends (by decide)⟩

/-- The interpreter stops at the first word of an empty program however long it
is asked to run; the machine does not get as far as that word. -/
theorem long_run_is_no_reference_run :
    ∃ m, load #[] {} plainJournal = .ok m
      ∧ ¬ EndsLike (m.run 0x8000000000000000)
        (Reference.run 0x8000000000000000 (Reference.start #[])) := by
  refine ⟨loaded #[] {} plainJournal, load_eq_ok_iff.2 ⟨by decide, rfl⟩, fun hends => ?_⟩
  obtain ⟨fault, hfault, -⟩ := hends.stopped
  rw [run_of_lt (by decide)] at hfault
  cases fault with
  | none => exact absurd hfault (by simp)
  | some f => exact absurd hfault (by simp)

end Machine

end Chip8
