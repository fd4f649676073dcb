/-
Skipping out of memory and around.

A skip moves the program counter by two, whatever is there, and the counter has sixteen
bits.  A machine that has left memory at its upper end can be brought back by skips alone:
they lead through the addresses outside memory, around the end of the counter to its lower
end, and from there through the zeros below the program.  On the whole way no step can be
carried out:

* `State.skipped` — a state some skips later;
* `Machine.Healthy.step_beyond`, `Machine.Healthy.step_below` — how a step fails outside
  memory and below the program;
* `Machine.entry` — the address at which the program is reached, `Machine.beyond_or_below` —
  the addresses on the way;
* `Machine.Healthy.skipped_after` — skips and failed steps on the way only move the program
  counter;
* `Machine.skips_come_back` — the whole way.

Design notes: two is even, so a machine at an odd address comes back at an odd address.
It reaches the program one byte early, at the word that has a zero for its first byte.
-/
import Chip8.Proofs.Confinement

namespace Chip8

namespace State

/-- The state with so many words skipped. -/
def skipped (s : State) (k : Nat) : State :=
  { s with pc := UInt16.ofNat (s.pc.toNat + 2 * k) }

theorem skipped_zero (s : State) : s.skipped 0 = s := by
  rw [skipped, Nat.mul_zero, Nat.add_zero, UInt16.ofNat_toNat]

theorem skipped_pc (s : State) (k : Nat) :
    (s.skipped k).pc.toNat = (s.pc.toNat + 2 * k) % 65536 :=
  UInt16.toNat_ofNat'

theorem moveOn_skipped (s : State) (k : Nat) : (s.skipped k).moveOn = s.skipped (k + 1) := by
  have hpc : (s.skipped k).moveOn.pc = (s.skipped (k + 1)).pc := by
    apply UInt16.toNat_inj.1
    show ((s.skipped k).pc + 2).toNat = _
    rw [UInt16.toNat_add, skipped_pc, skipped_pc, show (2 : UInt16).toNat = 2 from rfl]
    omega
  exact congrArg (fun pc => { s with pc := pc }) hpc

end State

namespace Machine

variable {m : Machine} {rom : Array Byte}

/-! ### Steps that fail on the way -/

theorem Healthy.step_beyond (hm : m.Healthy) (h : 4094 ≤ m.state.pc.toNat) :
    m.step.2 = some (.outOfRange m.state.pc.toNat none) := by
  have hout : ¬ m.state.Fits := fun hfits => absurd (State.fits_iff.1 hfits) (Nat.not_le.2 h)
  rw [hm.step_outcome, if_neg hout]

theorem Healthy.step_below (hm : m.Healthy) (hrom : programStart + rom.size ≤ memorySize)
    (hmemory : m.state.memory = Memory.image rom) (h : m.state.pc.toNat < 0x1FF) :
    m.step.2 = some (.unimplemented 0 m.state.pc.toNat) := by
  refine hm.step_of_not_touches hrom hmemory (State.fits_iff.2 (by omega)) ?_
  rintro ⟨b, hb, hlow, -⟩
  omega

/-! ### The way back -/

/-- The address at which skips from an address outside memory come back to the program. -/
def entry (p : Nat) : Nat :=
  if p % 2 = 0 then 0x200 else 0x1FF

theorem entry_eq (p : Nat) : entry p = 0x200 - p % 2 := by
  unfold entry
  split
  · omega
  · omega

/-- The addresses on the way, with those behind the end of the counter counted on. -/
theorem beyond_or_below {p q : Nat} (hp : 4094 ≤ p) (hpq : p ≤ q) (hparity : q % 2 = p % 2)
    (hq : q < 65536 + entry p) : 4094 ≤ q % 65536 ∨ q % 65536 < 0x1FF := by
  rw [entry_eq] at hq
  omega

theorem after_append_singleton (m : Machine) (calls : List Call) (call : Call) :
    m.after (calls ++ [call]) = ((m.after calls).perform call).1 := by
  rw [after, List.foldl_append]
  rfl

/-- Skips alone are not stopped by anything. -/
theorem after_replicate_skip (m : Machine) (k : Nat) :
    (m.after (List.replicate k .skip)).state = m.state.skipped k := by
  induction k with
  | zero => exact (State.skipped_zero _).symm
  | succ k ih =>
    rw [List.replicate_succ', after_append_singleton]
    show (m.after (List.replicate k .skip)).state.moveOn = _
    rw [ih, State.moveOn_skipped]

/-- Until the program is reached, a machine that is skipped and stepped in any order has
gone by its skips only. -/
theorem Healthy.skipped_after (hm : m.Healthy) (hrom : programStart + rom.size ≤ memorySize)
    (hmemory : m.state.memory = Memory.image rom) (hout : 4094 ≤ m.state.pc.toNat)
    {calls : List Call} (hcalls : ∀ call ∈ calls, call = .step ∨ call = .skip)
    (hway : m.state.pc.toNat + 2 * calls.count .skip < 65536 + entry m.state.pc.toNat) :
    (m.after calls).state = m.state.skipped (calls.count .skip)
      ∧ (m.after calls).steps = m.steps := by
  induction calls using List.reverseRecOn with
  | nil => exact ⟨(State.skipped_zero _).symm, rfl⟩
  | append_singleton calls call ih =>
    rw [List.count_append] at hway ⊢
    have hbefore : m.state.pc.toNat + 2 * calls.count .skip < 65536 + entry m.state.pc.toNat := by
      omega
    obtain ⟨hstate, hsteps⟩ := ih (fun c hc => hcalls c (List.mem_append_left _ hc)) hbefore
    rw [after_append_singleton]
    rcases hcalls call List.mem_concat_self with rfl | rfl
    · -- the step fails, for the address is on the way
      have hhealthy := hm.after calls
      have hkeep : (m.after calls).state.memory = Memory.image rom :=
        (after_memory m calls).trans hmemory
      have hpc : (m.after calls).state.pc.toNat
          = (m.state.pc.toNat + 2 * calls.count .skip) % 65536 := by
        rw [hstate, State.skipped_pc]
      obtain ⟨f, hf⟩ : ∃ f, (m.after calls).step.2 = some f := by
        rcases beyond_or_below hout (Nat.le_add_right _ _) (Nat.add_mul_mod_self_left _ 2 _) hbefore
          with hbeyond | hbelow
        · exact ⟨_, hhealthy.step_beyond (hpc ▸ hbeyond)⟩
        · exact ⟨_, hhealthy.step_below hrom hkeep (hpc ▸ hbelow)⟩
      show (m.after calls).step.1.state = _ ∧ (m.after calls).step.1.steps = _
      rw [step_eq_report hf, report_state, report_steps]
      exact ⟨hstate, hsteps⟩
    · refine ⟨?_, hsteps⟩
      show (m.after calls).state.moveOn = _
      rw [hstate, State.moveOn_skipped]
      rfl

/-- The word at which a machine comes back to its program. -/
theorem wordAt_entry (hrom : programStart + rom.size ≤ memorySize) (p : Nat) :
    (Memory.image rom).wordAt (entry p) =
      if p % 2 = 0 then 256 * (rom[0]?.getD 0).toNat + (rom[1]?.getD 0).toNat
      else (rom[0]?.getD 0).toNat := by
  unfold entry
  rw [Memory.wordAt, Memory.byteAt_image hrom, Memory.byteAt_image hrom]
  split
  · rfl
  · exact Nat.zero_add _

/-- **Skips lead back to the program.**  Take a machine that is outside memory, at an address
`p`, however it came there, and skip and step it in any order; let `q` be `p` and two for each
skip.  Below `2 ^ 16` the machine is at `q`, and a step is out of range there.  The skip that
reaches `2 ^ 16` leads to `p % 2`, and from there to the address at which the program is
reached every step finds the word zero.  Up to there nothing but the program counter has
changed, and there the bytes of the program are fetched again. -/
theorem skips_come_back {config : Config} {journal : Log.Journal} {start : Machine}
    (h : load rom config journal = .ok start) (before calls : List Call)
    (hout : 4094 ≤ (start.after before).state.pc.toNat)
    (hcalls : ∀ call ∈ calls, call = .step ∨ call = .skip) :
    let m := start.after before
    let t := m.after calls
    let p := m.state.pc.toNat
    let q := p + 2 * calls.count .skip
    (q < 65536 → t.state.pc.toNat = q ∧ t.step.2 = some (.outOfRange q none))
      ∧ (q < 65536 → 65536 ≤ q + 2 → t.skip.state.pc.toNat = p % 2)
      ∧ (65536 ≤ q → q < 65536 + entry p →
        t.state.pc.toNat = q - 65536 ∧ t.state.pc.toNat < 0x1FF
          ∧ t.step.2 = some (.unimplemented 0 t.state.pc.toNat))
      ∧ (q < 65536 + entry p →
        t.state.registers = m.state.registers ∧ t.state.index = m.state.index
          ∧ t.state.display = m.state.display ∧ t.state.memory = m.state.memory
          ∧ t.steps = m.steps)
      ∧ (q + 2 = 65536 + entry p →
        t.skip.state.pc.toNat = entry p
          ∧ t.skip.state.fetch.2 =
            if p % 2 = 0 then 256 * (rom[0]?.getD 0).toNat + (rom[1]?.getD 0).toNat
            else (rom[0]?.getD 0).toNat) := by
  intro m t p q
  obtain ⟨hrom, rfl⟩ := load_eq_ok_iff.1 h
  have hm : m.Healthy := (healthy_loaded rom config journal).after before
  have hmemory : m.state.memory = Memory.image rom := after_memory _ before
  have ht : t.Healthy := hm.after calls
  have hkeep : t.state.memory = Memory.image rom := (after_memory m calls).trans hmemory
  have hp : p < 65536 := m.state.pc.toNat_lt
  have hbeyond : 4094 ≤ q := le_trans hout (Nat.le_add_right _ _)
  have hparity : q % 2 = p % 2 := Nat.add_mul_mod_self_left p 2 _
  have hentry : entry p = 0x200 - p % 2 := entry_eq p
  have hskipped (hq : q < 65536 + entry p) := hm.skipped_after hrom hmemory hout hcalls hq
  have hpc (hq : q < 65536 + entry p) : t.state.pc.toNat = q % 65536 := by
    rw [(hskipped hq).1, State.skipped_pc]
  have hskip (hq : q < 65536 + entry p) : t.skip.state.pc.toNat = (q + 2) % 65536 := by
    show t.state.moveOn.pc.toNat = _
    rw [(hskipped hq).1, State.moveOn_skipped, State.skipped_pc]
    rfl
  refine ⟨fun hq => ?_, fun hq hnext => ?_, fun hq hway => ?_, fun hq => ?_, fun hq => ?_⟩
  · have hat : t.state.pc.toNat = q := by
      rw [hpc (by omega)]
      omega
    refine ⟨hat, ?_⟩
    rw [ht.step_beyond (by omega), hat]
  · rw [hskip (by omega)]
    omega
  · have hat : t.state.pc.toNat = q - 65536 := by
      rw [hpc hway]
      omega
    have hbelow : t.state.pc.toNat < 0x1FF := by omega
    exact ⟨hat, hbelow, ht.step_below hrom hkeep hbelow⟩
  · obtain ⟨hstate, hsteps⟩ := hskipped hq
    rw [hstate]
    exact ⟨rfl, rfl, rfl, rfl, hsteps⟩
  · have hat : t.skip.state.pc.toNat = entry p := by
      rw [hskip (by omega)]
      omega
    have hfits : t.skip.state.Fits := State.fits_iff.2 (by omega)
    refine ⟨hat, ?_⟩
    rw [State.fetch_of_fits hfits]
    show t.state.memory.wordAt t.skip.state.pc.toNat = _
    rw [hkeep, hat]
    exact wordAt_entry hrom p

/-- A program that jumps to itself is skipped past the end of memory.  From there a step that
fails is followed by skips: by one, by all that are needed for the end of the counter, and by
all that are needed for the last zero before the program. -/
theorem skips_come_back_selfJump :
    let outside := List.replicate 1791 Call.skip
    let way (k : Nat) := Call.step :: List.replicate k .skip
    ∃ m, load selfJump .traced plainJournal = .ok m
      ∧ 4094 ≤ (m.after outside).state.pc.toNat
      ∧ (∀ k, ∀ call ∈ way k, call = .step ∨ call = .skip)
      ∧ ((m.after outside).after (way 1)).step.2 = some (.outOfRange 4096 none)
      ∧ ((m.after outside).after (way 30720)).skip.state.pc.toNat = 0
      ∧ ((m.after outside).after (way 30976)).step.2 = some (.unimplemented 0 0x1FE)
      ∧ ((m.after outside).after (way 30976)).steps = (m.after outside).steps
      ∧ ((m.after outside).after (way 30976)).skip.state.fetch.2 = 0x1200 := by
  intro outside way
  obtain ⟨m, hm⟩ : ∃ m, m = loaded selfJump .traced plainJournal := ⟨_, rfl⟩
  have hload : load selfJump .traced plainJournal = .ok m := load_eq_ok_iff.2 ⟨by decide, hm⟩
  have hstart : m.state.pc.toNat = 0x200 := by
    rw [hm]
    show (UInt16.ofNat 0x200).toNat = 0x200
    decide
  have hpc : (m.after outside).state.pc.toNat = 4094 := by
    rw [after_replicate_skip, State.skipped_pc, hstart]
  have hout : 4094 ≤ (m.after outside).state.pc.toNat := hpc.ge
  have hway (k : Nat) : ∀ call ∈ way k, call = .step ∨ call = .skip := by
    intro call hmem
    exact (List.mem_cons.1 hmem).imp id List.eq_of_mem_replicate
  have hcount (k : Nat) : (way k).count .skip = k := by
    rw [List.count_cons_of_ne (by decide), List.count_replicate_self]
  have hback (k : Nat) := skips_come_back hload outside (way k) hout (hway k)
  simp only [hpc, hcount] at hback
  obtain ⟨hrange, -⟩ := hback 1
  obtain ⟨-, hwrap, -⟩ := hback 30720
  obtain ⟨-, -, hzero, hsame, hword⟩ := hback 30976
  obtain ⟨hat, -, hfail⟩ := hzero (by decide) (by decide)
  rw [hat] at hfail
  obtain ⟨-, -, -, -, hsteps⟩ := hsame (by decide)
  exact ⟨m, hload, hout, hway, (hrange (by decide)).2, hwrap (by decide) (by decide), hfail,
    hsteps, (hword (by decide)).2⟩

end Machine

end Chip8
