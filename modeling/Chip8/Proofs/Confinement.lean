/-
Nothing but the program is ever executed.

Around a program memory is zero, and zero is no instruction.  So a step that is
carried out has read at least one byte of the program, however the program
counter came to where it is: by running on, by a jump, or by skips that have
carried it around the end of its range.

* `Machine.stepped` — the machines at which some calls make their steps, and
  `Machine.outcomes_eq_map_stepped`, which ties them to how the steps end;
* `Machine.stepped_invariant` — what a step and a skip preserve holds of all of
  them;
* `Memory.wordAt_image_of_not_touches` — a word without a byte of the program is
  zero;
* `Machine.Healthy.step_of_not_touches`, `Machine.Healthy.touches_of_step` — what a
  step does at such a word, and what one that returns has read;
* `Machine.executes_program_only` — every step that returns has executed a word
  with a byte of the program, and at every other word in memory a step fails.

Design notes: the two words that overlap the program at its ends only are not
excluded.  The one before it has the first byte of the program as its low byte,
and the last byte of the program can be the high byte of a word.
-/
import Chip8.Proofs.Faults

namespace Chip8

/-- Whether one of the two bytes of the word at an address is in a program. -/
def Touches (rom : Array Byte) (a : Nat) : Prop :=
  ∃ b, (b = a ∨ b = a + 1) ∧ 0x200 ≤ b ∧ b < 0x200 + rom.size

namespace Memory

variable {rom : Array Byte}

theorem byteAt_image_of_outside (h : programStart + rom.size ≤ memorySize) {b : Nat}
    (hb : ¬ (0x200 ≤ b ∧ b < 0x200 + rom.size)) : (image rom).byteAt b = 0 := by
  rw [byteAt_image h]
  by_cases hlow : programStart ≤ b
  · have hend : rom.size ≤ b - programStart := by
      unfold programStart at hlow ⊢
      omega
    rw [if_pos hlow, Array.getElem?_eq_none hend, Option.getD_none]
  · rw [if_neg hlow]

theorem wordAt_image_of_not_touches (h : programStart + rom.size ≤ memorySize) {a : Nat}
    (ha : ¬ Touches rom a) : (image rom).wordAt a = 0 := by
  have hhigh : (image rom).byteAt a = 0 :=
    byteAt_image_of_outside h fun hin => ha ⟨a, Or.inl rfl, hin⟩
  have hlow : (image rom).byteAt (a + 1) = 0 :=
    byteAt_image_of_outside h fun hin => ha ⟨a + 1, Or.inr rfl, hin⟩
  rw [wordAt, hhigh, hlow]
  rfl

end Memory

theorem State.fits_iff {s : State} : s.Fits ↔ s.pc.toNat ≤ 4093 := by
  unfold Fits memorySize
  omega

namespace Machine

/-! ### The steps that calls make -/

/-- The machines at which a run makes its steps, up to the one that fails. -/
def runStepped : Nat → Machine → List Machine
  | 0, _ => []
  | n + 1, m => m :: if m.step.2 = none then runStepped n m.step.1 else []

/-- The machines at which a call makes its steps. -/
def callStepped (m : Machine) : Call → List Machine
  | .step => [m]
  | .skip => []
  | .run steps => if runLimit < steps then [] else runStepped steps.toNat m

/-- The machines at which some calls make their steps, in order. -/
def stepped (m : Machine) : List Call → List Machine
  | [] => []
  | call :: calls => m.callStepped call ++ (m.perform call).1.stepped calls

@[simp] theorem stepped_step (m : Machine) (calls : List Call) :
    m.stepped (.step :: calls) = m :: m.step.1.stepped calls := rfl

@[simp] theorem stepped_skip (m : Machine) (calls : List Call) :
    m.stepped (.skip :: calls) = m.skip.stepped calls := rfl

theorem runOutcomes_eq_map (n : Nat) (m : Machine) :
    runOutcomes n m = (runStepped n m).map fun k => k.step.2 := by
  induction n generalizing m with
  | zero => rfl
  | succ n ih =>
    rw [runOutcomes, runStepped, List.map_cons]
    by_cases hstep : m.step.2 = none
    · rw [if_pos hstep, if_pos hstep, ih]
    · rw [if_neg hstep, if_neg hstep, List.map_nil]

theorem callOutcomes_eq_map (m : Machine) (call : Call) :
    m.callOutcomes call = (m.callStepped call).map fun k => k.step.2 := by
  cases call with
  | step => rfl
  | skip => rfl
  | run steps =>
    rw [callOutcomes, callStepped]
    by_cases hlimit : runLimit < steps
    · rw [if_pos hlimit, if_pos hlimit, List.map_nil]
    · rw [if_neg hlimit, if_neg hlimit, runOutcomes_eq_map]

/-- The machines at which steps are made account for all outcomes of steps. -/
theorem outcomes_eq_map_stepped (m : Machine) (calls : List Call) :
    m.outcomes calls = (m.stepped calls).map fun k => k.step.2 := by
  induction calls generalizing m with
  | nil => rfl
  | cons call calls ih =>
    rw [outcomes, stepped, List.map_append, callOutcomes_eq_map, ih]

section Invariants

variable {P : Machine → Prop}

theorem runStepped_invariant (hstep : ∀ m, P m → P m.step.1) (n : Nat) {m : Machine} (h : P m) :
    ∀ k ∈ runStepped n m, P k := by
  induction n generalizing m with
  | zero => exact fun k hk => absurd hk List.not_mem_nil
  | succ n ih =>
    intro k hk
    rw [runStepped, List.mem_cons] at hk
    rcases hk with rfl | hk
    · exact h
    · by_cases hnone : m.step.2 = none
      · rw [if_pos hnone] at hk
        exact ih (hstep m h) k hk
      · rw [if_neg hnone] at hk
        exact absurd hk List.not_mem_nil

theorem callStepped_invariant (hstep : ∀ m, P m → P m.step.1) (call : Call) {m : Machine}
    (h : P m) : ∀ k ∈ m.callStepped call, P k := by
  intro k hk
  cases call with
  | step =>
    rw [callStepped, List.mem_singleton] at hk
    rw [hk]
    exact h
  | skip => exact absurd hk List.not_mem_nil
  | run steps =>
    rw [callStepped] at hk
    by_cases hlimit : runLimit < steps
    · rw [if_pos hlimit] at hk
      exact absurd hk List.not_mem_nil
    · rw [if_neg hlimit] at hk
      exact runStepped_invariant hstep _ h k hk

/-- What every step and every skip preserves holds of all machines at which some
calls make a step. -/
theorem stepped_invariant (hstep : ∀ m, P m → P m.step.1) (hskip : ∀ m, P m → P m.skip)
    (calls : List Call) {m : Machine} (h : P m) : ∀ k ∈ m.stepped calls, P k := by
  induction calls generalizing m with
  | nil => exact fun k hk => absurd hk List.not_mem_nil
  | cons call calls ih =>
    intro k hk
    rw [stepped, List.mem_append] at hk
    rcases hk with hk | hk
    · exact callStepped_invariant hstep call h k hk
    · have hnext : P (m.after [call]) := after_invariant hstep [call] (fun _ => hskip) h
      exact ih hnext k hk

end Invariants

/-! ### Words outside the program -/

/-- A step at a word in memory without a byte of the program finds zero, which is
no instruction. -/
theorem Healthy.step_of_not_touches {rom : Array Byte} {m : Machine} (hm : m.Healthy)
    (hrom : programStart + rom.size ≤ memorySize) (hmemory : m.state.memory = Memory.image rom)
    (hfits : m.state.Fits) (ha : ¬ Touches rom m.state.pc.toNat) :
    m.step.2 = some (.unimplemented 0 m.state.pc.toNat) := by
  have hword : m.state.word = 0 := by
    rw [State.word, hmemory]
    exact Memory.wordAt_image_of_not_touches hrom ha
  have hstep := (hm.step_eq_unimplemented_iff hfits).2 (by rw [hword]; decide)
  rw [hword] at hstep
  exact hstep

/-- A step that returns has found its word in memory. -/
theorem Healthy.fits_of_step {m : Machine} (hm : m.Healthy) (h : m.step.2 = none) :
    m.state.Fits := by
  by_contra hnot
  rw [hm.step_outcome, if_neg hnot] at h
  exact absurd h (by simp)

/-- A step that returns has read a byte of the program. -/
theorem Healthy.touches_of_step {rom : Array Byte} {m : Machine} (hm : m.Healthy)
    (hrom : programStart + rom.size ≤ memorySize) (hmemory : m.state.memory = Memory.image rom)
    (h : m.step.2 = none) : Touches rom m.state.pc.toNat := by
  by_contra hnot
  rw [hm.step_of_not_touches hrom hmemory (hm.fits_of_step h) hnot] at h
  exact absurd h (by simp)

/-- Every machine at which a call makes a step is in order, and has the memory that
the program was loaded into: no call writes to memory. -/
theorem stepped_loaded (rom : Array Byte) (config : Config) (journal : Log.Journal)
    (calls : List Call) : ∀ m ∈ (loaded rom config journal).stepped calls,
      m.Healthy ∧ m.state.memory = Memory.image rom := by
  apply stepped_invariant (P := fun m => m.Healthy ∧ m.state.memory = Memory.image rom)
  · rintro m ⟨hm, hmemory⟩
    exact ⟨hm.step, (step_memory m).trans hmemory⟩
  · -- a skip moves the program counter only
    rintro m ⟨hm, hmemory⟩
    exact ⟨hm.skip, hmemory⟩
  · exact ⟨healthy_loaded rom config journal, rfl⟩

/-- **Nothing but the program is executed.**  Whatever calls are made of a machine,
each step that returns was made at a word in memory that has a byte of the
program; at every other word in memory a step fails, for it finds the word zero.
A machine with an empty program completes no step at all. -/
theorem executes_program_only {rom : Array Byte} {config : Config} {journal : Log.Journal}
    {start : Machine} (h : load rom config journal = .ok start) (calls : List Call) :
    (∀ m ∈ start.stepped calls,
        (m.step.2 = none → m.state.pc.toNat ≤ 4093 ∧ Touches rom m.state.pc.toNat)
        ∧ (m.state.pc.toNat ≤ 4093 → ¬ Touches rom m.state.pc.toNat →
          m.step.2 = some (.unimplemented 0 m.state.pc.toNat)))
      ∧ (rom = #[] → none ∉ start.outcomes calls ∧ (start.after calls).steps = 0) := by
  obtain ⟨hrom, rfl⟩ := load_eq_ok_iff.1 h
  have hall := stepped_loaded rom config journal calls
  refine ⟨fun m hmem => ?_, ?_⟩
  · obtain ⟨hm, hmemory⟩ := hall m hmem
    refine ⟨fun hnone => ⟨?_, ?_⟩, fun ha hnot => ?_⟩
    · exact State.fits_iff.1 (hm.fits_of_step hnone)
    · exact hm.touches_of_step hrom hmemory hnone
    · exact hm.step_of_not_touches hrom hmemory (State.fits_iff.2 ha) hnot
  · rintro rfl
    have hnever : none ∉ (loaded #[] config journal).outcomes calls := by
      rw [outcomes_eq_map_stepped, List.mem_map]
      rintro ⟨m, hmem, hnone⟩
      -- an empty program has no byte that could be touched
      obtain ⟨hm, hmemory⟩ := hall m hmem
      obtain ⟨b, -, hlow, hhigh⟩ := hm.touches_of_step hrom hmemory hnone
      exact absurd (Nat.lt_of_le_of_lt hlow hhigh) (Nat.lt_irrefl _)
    refine ⟨hnever, ?_⟩
    rw [steps_after, List.count_eq_zero.2 hnever]
    rfl

/-- A program that jumps to itself is executed at its first word, and a skip leads
to a word behind it. -/
theorem executes_program_only_selfJump :
    ∃ m k, load selfJump .traced plainJournal = .ok m
      ∧ m ∈ m.stepped [.step, .skip, .step]
      ∧ m.step.2 = none ∧ m.state.pc.toNat ≤ 4093 ∧ Touches selfJump m.state.pc.toNat
      ∧ k ∈ m.stepped [.step, .skip, .step]
      ∧ k.state.pc.toNat ≤ 4093 ∧ ¬ Touches selfJump k.state.pc.toNat
      ∧ k.step.2 = some (.unimplemented 0 0x202)
      ∧ ∃ e, load #[] .traced plainJournal = .ok e ∧ (e.after [.skip, .run 3]).steps = 0 := by
  have hload : load selfJump .traced plainJournal = .ok (loaded selfJump .traced plainJournal) :=
    load_eq_ok_iff.2 ⟨by decide, rfl⟩
  have hempty : load #[] .traced plainJournal = .ok (loaded #[] .traced plainJournal) :=
    load_eq_ok_iff.2 ⟨by decide, rfl⟩
  have hstep := step_of_ok (advance_loaded_selfJump .traced plainJournal)
  have hpc : (loaded selfJump .traced plainJournal).step.1.skip.state.pc.toNat = 0x202 := by
    rw [hstep]
    show (UInt16.ofNat 0x200 + 2).toNat = 0x202
    decide
  have hbehind : ¬ Touches selfJump 0x202 := by
    rintro ⟨b, hb, -, hlt⟩
    have hsize : selfJump.size = 2 := rfl
    omega
  have hmem : loaded selfJump .traced plainJournal
      ∈ (loaded selfJump .traced plainJournal).stepped [.step, .skip, .step] := by
    rw [stepped_step]
    exact List.mem_cons_self
  have hmem' : (loaded selfJump .traced plainJournal).step.1.skip
      ∈ (loaded selfJump .traced plainJournal).stepped [.step, .skip, .step] := by
    rw [stepped_step, stepped_skip, stepped_step]
    exact List.mem_cons_of_mem _ List.mem_cons_self
  obtain ⟨hall, -⟩ := executes_program_only hload [.step, .skip, .step]
  have hnone : (loaded selfJump .traced plainJournal).step.2 = none := by rw [hstep]
  obtain ⟨hle, htouches⟩ := (hall _ hmem).1 hnone
  have hlast := (hall _ hmem').2
  rw [hpc] at hlast
  refine ⟨_, _, hload, hmem, hnone, hle, htouches, hmem', ?_, ?_, ?_, _, hempty, ?_⟩
  · rw [hpc]
    decide
  · rw [hpc]
    exact hbehind
  · exact hlast (by decide) hbehind
  · exact ((executes_program_only hempty [.skip, .run 3]).2 rfl).2

end Machine

end Chip8
