/-
When a step of a machine fails, and what a failed step leaves behind.

The fault of a step is read off the address and the word there: nothing else has
to be known about how the machine came to its state.

* `State.refusal_ofWord_eq_none_iff` — the words that are carried out;
* `Machine.Healthy.step_outcome` — how a step ends;
* `Machine.step_fault_exact` — the same for the machine after any calls, with
  what a failed step leaves behind, and that it fails again;
* `Machine.long_run_after_fault` — the exception: a run that is too long to be
  counted is refused before its first step, also after a fault.
-/
import Chip8.Proofs.Calls

namespace Chip8

namespace State

/-- Whether a word draws a sprite of which some row lands on the screen and lies
outside memory. -/
def ReadsOutside (s : State) (w : Nat) : Prop :=
  w / 0x1000 = 0xD ∧ ∃ r < w % 0x10,
    (s.register (nibble (w / 0x10))).toNat % 32 + r < 32 ∧ 4095 ≤ s.index.toNat + r

variable {s : State} {w : Nat}

theorem refusal_ofWord_eq_unimplemented_iff (hw : w < 65536) :
    s.refusal (Instruction.ofWord w) = some .unimplemented ↔ ¬ Implemented w := by
  rw [refusal_eq_unimplemented_iff, Instruction.ofWord_eq_unknown_iff hw]

theorem refusal_ofWord_eq_outOfRange_iff (hw : w < 65536) (hI : s.index.toNat ≤ addressMask) :
    s.refusal (Instruction.ofWord w) = some .outOfRange ↔ s.ReadsOutside w := by
  constructor
  · intro h
    obtain ⟨x, y, n, hdraw⟩ := exists_draw_of_refusal h
    rw [hdraw, refusal_draw_iff hI] at h
    obtain ⟨hd, -, rfl, hn⟩ := (Instruction.ofWord_eq_draw_iff hw).1 hdraw
    rw [hn] at h
    exact ⟨hd, h⟩
  · rintro ⟨hd, hrow⟩
    have hn : (nibble (w % 0x10)).val = w % 0x10 := by
      rw [val_nibble]
      omega
    have hdraw := (Instruction.ofWord_eq_draw_iff hw).2 ⟨hd, rfl, rfl, hn⟩
    rw [hdraw, refusal_draw_iff hI, hn]
    exact hrow

theorem refusal_ofWord_eq_none_iff (hw : w < 65536) (hI : s.index.toNat ≤ addressMask) :
    s.refusal (Instruction.ofWord w) = none ↔ Implemented w ∧ ¬ s.ReadsOutside w := by
  rw [← refusal_ofWord_eq_outOfRange_iff hw hI,
    ← not_not (a := Implemented w), ← refusal_ofWord_eq_unimplemented_iff (s := s) hw]
  -- a word is refused for one reason at most
  cases s.refusal (Instruction.ofWord w) with
  | none => simp
  | some kind => cases kind <;> simp

end State

namespace Machine

/-! ### How a step ends -/

theorem Healthy.step_outcome {m : Machine} (h : m.Healthy) :
    m.step.2 =
      if m.state.Fits then
        (m.state.refusal (Instruction.ofWord m.state.word)).map fun kind =>
          refusalFault kind m.state.pc.toNat m.state.word
      else some (.outOfRange m.state.pc.toNat none) := by
  by_cases hfits : m.state.Fits
  · rw [if_pos hfits]
    cases hr : m.state.refusal (Instruction.ofWord m.state.word) with
    | none => rw [step_of_ok (advance_of_refusal_none h.fault hfits hr), Option.map_none]
    | some kind => rw [step_of_fault (advance_of_refusal h.fault hfits hr), Option.map_some]
  · rw [if_neg hfits, step_of_fault (advance_of_not_fits hfits)]

theorem Healthy.step_eq_unimplemented_iff {m : Machine} (h : m.Healthy) (hfits : m.state.Fits) :
    m.step.2 = some (.unimplemented m.state.word m.state.pc.toNat) ↔ ¬ Implemented m.state.word := by
  rw [h.step_outcome, if_pos hfits,
    ← State.refusal_ofWord_eq_unimplemented_iff (s := m.state) m.state.word_lt]
  cases m.state.refusal (Instruction.ofWord m.state.word) with
  | none => simp
  | some kind => cases kind <;> simp [refusalFault]

theorem Healthy.step_eq_outOfRange_iff {m : Machine} (h : m.Healthy) (hfits : m.state.Fits) :
    m.step.2 = some (.outOfRange m.state.pc.toNat (some (m.state.word : Int)))
      ↔ m.state.ReadsOutside m.state.word := by
  rw [h.step_outcome, if_pos hfits,
    ← State.refusal_ofWord_eq_outOfRange_iff m.state.word_lt h.index]
  cases m.state.refusal (Instruction.ofWord m.state.word) with
  | none => simp
  | some kind => cases kind <;> simp [refusalFault]

theorem Healthy.step_eq_none_iff {m : Machine} (h : m.Healthy) (hfits : m.state.Fits) :
    m.step.2 = none ↔ Implemented m.state.word ∧ ¬ m.state.ReadsOutside m.state.word := by
  rw [h.step_outcome, if_pos hfits, Option.map_eq_none_iff,
    State.refusal_ofWord_eq_none_iff m.state.word_lt h.index]

/-- A step that fails does nothing but report its fault. -/
theorem step_eq_report {m : Machine} {f : Fault} (h : m.step.2 = some f) : m.step.1 = m.report f := by
  cases hadv : advance m.state with
  | ok r =>
    rw [step_of_ok hadv] at h
    exact absurd h (by simp)
  | error g =>
    rw [step_of_fault hadv, Option.some.injEq] at h
    rw [step_of_fault hadv, ← h]
    rfl

/-- How a step ends depends on the state alone. -/
theorem step_outcome_congr {m k : Machine} (h : m.state = k.state) : m.step.2 = k.step.2 := by
  cases hadv : advance m.state with
  | ok r => rw [step_of_ok hadv, step_of_ok (h ▸ hadv)]
  | error f => rw [step_of_fault hadv, step_of_fault (h ▸ hadv)]

/-- A run of at least one step from a state whose step fails, fails with it. -/
theorem runFor_of_step_fault {m : Machine} {f : Fault} (h : m.step.2 = some f) (n : Nat) :
    runFor (n + 1) m = (m.report f, some f) := by
  rw [runFor_succ, h, step_eq_report h]

theorem run_eq_report {m : Machine} {f : Fault} (h : m.step.2 = some f) {k : Int} (hk : 1 ≤ k)
    (hlimit : k ≤ runLimit) : m.run k = (m.report f, some (.fault f)) := by
  obtain ⟨n, hn⟩ : ∃ n, k.toNat = n + 1 := ⟨k.toNat - 1, by omega⟩
  rw [run_of_le hlimit, hn, runFor_of_step_fault h, Option.map_some]

theorem run_of_step_fault {m : Machine} {f : Fault} (h : m.step.2 = some f) {k : Int} (hk : 1 ≤ k) :
    m.run k = if k ≤ runLimit then (m.step.1, some (.fault f)) else (m, some .tooLong) := by
  by_cases hlimit : k ≤ runLimit
  · rw [if_pos hlimit, run_eq_report h hk hlimit, step_eq_report h]
  · rw [if_neg hlimit, run_of_lt (Int.not_le.1 hlimit)]

/-! ### Exact and atomic faults -/

/-- **Faults are exact and atomic.**  After any calls, how a step ends is decided
by the address and the word there; a step that fails changes nothing and reports
its fault once, and it fails again, also as the first step of a run.  A run that is too
long to be counted does not come to that step, and leaves the machine as it is. -/
theorem step_fault_exact {rom : Array Byte} {config : Config} {journal : Log.Journal}
    {start : Machine} (h : load rom config journal = .ok start) (calls : List Call) :
    let m := start.after calls
    let a := m.state.pc.toNat
    let w := m.state.memory.wordAt a
    (4095 ≤ a + 1 → m.step.2 = some (.outOfRange a none))
      ∧ (a + 1 < 4095 →
        (m.step.2 = some (.unimplemented w a) ↔ ¬ Implemented w)
        ∧ (m.step.2 = some (.outOfRange a (some (w : Int))) ↔ m.state.ReadsOutside w)
        ∧ (m.step.2 = none ↔ Implemented w ∧ ¬ m.state.ReadsOutside w))
      ∧ ∀ f, m.step.2 = some f →
        m.step.1 = { m with journal := m.journal.report .error (f.name ++ ": " ++ f.message) }
        ∧ m.step.1.journal.traced = m.journal.traced
        ∧ m.step.1.step.2 = some f
        ∧ ∀ k : Int, 1 ≤ k →
          m.step.1.run k =
            if k ≤ runLimit then (m.step.1.step.1, some (.fault f))
            else (m.step.1, some .tooLong) := by
  intro m a w
  have hm : m.Healthy := by
    obtain ⟨-, rfl⟩ := load_eq_ok_iff.1 h
    exact (healthy_loaded rom config journal).after calls
  refine ⟨fun ha => ?_, fun ha => ?_, ?_⟩
  · have hnot : ¬ m.state.Fits := Nat.not_lt.2 ha
    rw [hm.step_outcome, if_neg hnot]
  · have hfits : m.state.Fits := ha
    exact ⟨hm.step_eq_unimplemented_iff hfits, hm.step_eq_outOfRange_iff hfits,
      hm.step_eq_none_iff hfits⟩
  · intro f hf
    have hreport := step_eq_report hf
    -- the failed step has kept the state, and nothing else decides the next one
    have hagain : m.step.1.step.2 = some f := by
      rw [← hf]
      exact step_outcome_congr (by rw [hreport, report_state])
    refine ⟨hreport, ?_, hagain, fun k hk => run_of_step_fault hagain hk⟩
    rw [hreport]
    rfl

theorem step_fault_exact_skipped :
    load #[] .traced plainJournal = .ok (loaded #[] .traced plainJournal)
      ∧ ¬ Implemented 0
      ∧ ((loaded #[] .traced plainJournal).after [.skip]).step.2 = some (.unimplemented 0 0x202)
      ∧ (((loaded #[] .traced plainJournal).after [.skip]).step.1.run 3).2
        = some (.fault (.unimplemented 0 0x202)) := by
  have hload : load #[] .traced plainJournal = .ok (loaded #[] .traced plainJournal) :=
    load_eq_ok_iff.2 ⟨by decide, rfl⟩
  have hpc : ((loaded #[] .traced plainJournal).after [.skip]).state.pc.toNat = 0x202 := by
    show (UInt16.ofNat 0x200 + 2).toNat = 0x202
    decide
  have hword (a : Nat) :
      ((loaded #[] .traced plainJournal).after [.skip]).state.memory.wordAt a = 0 :=
    wordAt_image_empty a
  obtain ⟨-, hin, hfault⟩ := step_fault_exact hload [.skip]
  rw [hpc, hword] at hin
  have hstep := (hin (by decide)).1.2 (by decide)
  obtain ⟨-, -, -, hrun⟩ := hfault _ hstep
  refine ⟨hload, by decide, hstep, ?_⟩
  rw [hrun 3 (by decide), if_pos (by decide)]
  rfl

/-- A run that cannot be counted does not fail like the step before it. -/
theorem long_run_after_fault :
    ∃ m, load #[] {} plainJournal = .ok m
      ∧ m.step.2 = some (.unimplemented 0 0x200)
      ∧ (m.step.1.run 0x8000000000000000).2 ≠ some (.fault (.unimplemented 0 0x200)) := by
  have hstep : (loaded #[] {} plainJournal).step.2 = some (.unimplemented 0 0x200) := by
    rw [step_of_fault (advance_loaded_empty {} plainJournal)]
  refine ⟨loaded #[] {} plainJournal, load_eq_ok_iff.2 ⟨by decide, rfl⟩, hstep, ?_⟩
  rw [run_of_lt (by decide)]
  decide

end Machine

end Chip8
