/-
Control flow ignores data.

Which instruction comes next depends on memory and the address alone: a jump names its
target, and after every other instruction comes the next word.  No instruction writes to
memory, so the addresses of steps that return are the orbit of an address under one
function, and an orbit that comes back to an address repeats itself:

* `Memory.successor` — the address after an address;
* `Machine.Healthy.step_pc` — a step that returns leads there;
* `Machine.Orbit` — machines that stand at successive addresses, and
  `Machine.Healthy.orbit_stepped`: those at which calls make their steps do;
* `Machine.loop_left_by_fault_only` — steps that come back to an address go on as they
  did before, and keep to the same addresses as long as they return.

Design notes: a draw fails or not depending on the registers, so data can decide whether a
program goes on, but not where.
-/
import Chip8.Proofs.Confinement
import Mathlib.Data.List.Iterate
import Mathlib.Dynamics.PeriodicPts.Defs

namespace Chip8

/-- The address that comes after the instruction at an address. -/
def Memory.successor (m : Memory) (pc : UInt16) : UInt16 :=
  match Instruction.ofWord (m.wordAt pc.toNat) with
  | .jump target => UInt16.ofNat target.val
  | _ => pc + 2

namespace Machine

theorem Healthy.step_pc {m : Machine} (hm : m.Healthy) (h : m.step.2 = none) :
    m.step.1.state.pc = m.state.memory.successor m.state.pc := by
  rcases step_cases hm.fault with ⟨-, -, hstep⟩ | ⟨f, -, hstep⟩
  · rw [hstep]
    exact State.exec_pc _ _
  · rw [hstep] at h
    exact absurd h (by simp)

/-! ### Orbits -/

/-- That some machines stand at the addresses that follow each other from one address on, up
to another address. -/
structure Orbit (memory : Memory) (first : UInt16) (machines : List Machine) (last : UInt16) :
    Prop where
  pcs : machines.map (fun k => k.state.pc)
    = List.iterate memory.successor first machines.length
  words : ∀ k ∈ machines, k.state.memory = memory
  last_eq : last = memory.successor^[machines.length] first

variable {memory : Memory} {a b c : UInt16} {l l' : List Machine}

theorem Orbit.nil : Orbit memory a [] a :=
  ⟨rfl, fun _ hk => absurd hk List.not_mem_nil, rfl⟩

theorem Orbit.append (h : Orbit memory a l b) (h' : Orbit memory b l' c) :
    Orbit memory a (l ++ l') c where
  pcs := by
    rw [List.map_append, h.pcs, h'.pcs, h.last_eq, List.length_append, List.iterate_add]
  words k hk := by
    rcases List.mem_append.1 hk with hk | hk
    · exact h.words k hk
    · exact h'.words k hk
  last_eq := by
    rw [h'.last_eq, h.last_eq, List.length_append, Nat.add_comm, Function.iterate_add_apply]

theorem Healthy.orbit_step {m : Machine} (hm : m.Healthy) (hmemory : m.state.memory = memory)
    (h : m.step.2 = none) : Orbit memory m.state.pc [m] m.step.1.state.pc where
  pcs := rfl
  words k hk := by
    rw [List.mem_singleton.1 hk, hmemory]
  last_eq := by
    rw [hm.step_pc h, hmemory]
    rfl

theorem Healthy.orbit_runStepped {m : Machine} (hm : m.Healthy)
    (hmemory : m.state.memory = memory) (n : Nat)
    (h : ∀ outcome ∈ runOutcomes n m, outcome = none) :
    Orbit memory m.state.pc (runStepped n m) (runFor n m).1.state.pc := by
  induction n generalizing m with
  | zero => exact .nil
  | succ n ih =>
    rw [runOutcomes] at h
    have hstep : m.step.2 = none := h _ List.mem_cons_self
    have hrest := ih hm.step ((step_memory m).trans hmemory) fun outcome hmem => by
      refine h outcome (List.mem_cons_of_mem _ ?_)
      rw [if_pos hstep]
      exact hmem
    rw [runStepped, if_pos hstep, runFor_succ, hstep]
    exact (hm.orbit_step hmemory hstep).append hrest

/-- The steps that calls make, if none is skipped and all of them return, follow each
other. -/
theorem Healthy.orbit_stepped {m : Machine} (hm : m.Healthy) (hmemory : m.state.memory = memory)
    {calls : List Call} (hskip : Call.skip ∉ calls)
    (h : ∀ outcome ∈ m.outcomes calls, outcome = none) :
    Orbit memory m.state.pc (m.stepped calls) (m.after calls).state.pc := by
  induction calls generalizing m with
  | nil => exact .nil
  | cons call calls ih =>
    rw [outcomes] at h
    have hnext : (m.perform call).1.Healthy := hm.after [call]
    have hkeep : (m.perform call).1.state.memory = memory := (after_memory m [call]).trans hmemory
    have hrest := ih hnext hkeep (fun hmem => hskip (List.mem_cons_of_mem _ hmem))
      fun outcome hmem => h outcome (List.mem_append_right _ hmem)
    have hcall : Orbit memory m.state.pc (m.callStepped call) (m.perform call).1.state.pc := by
      cases call with
      | step => exact hm.orbit_step hmemory (h _ (List.mem_append_left _ List.mem_cons_self))
      | skip => exact absurd List.mem_cons_self hskip
      | run steps =>
        by_cases hlimit : runLimit < steps
        · rw [callStepped, if_pos hlimit, perform, run_of_lt hlimit]
          exact .nil
        · rw [callStepped, if_neg hlimit, perform, run_of_le (Int.not_lt.1 hlimit)]
          refine hm.orbit_runStepped hmemory _ fun outcome hmem => ?_
          refine h outcome (List.mem_append_left _ ?_)
          rw [callOutcomes, if_neg hlimit]
          exact hmem
    exact hcall.append hrest

/-! ### Loops -/

/-- The addresses and the words of the instructions that calls carry out. -/
def executed (m : Machine) (calls : List Call) : List (Nat × Nat) :=
  (m.stepped calls).map fun k => (k.state.pc.toNat, k.state.word)

theorem Orbit.getElem_executed (h : Orbit memory a l b) {t : Nat} (ht : t < l.length) :
    (l.map fun k => (k.state.pc.toNat, k.state.word))[t]?
      = some ((memory.successor^[t] a).toNat, memory.wordAt (memory.successor^[t] a).toNat) := by
  have hpc : (l.map fun k => k.state.pc)[t]? = some (memory.successor^[t] a) := by
    rw [h.pcs, List.getElem?_iterate _ _ _ _ ht]
  rw [List.getElem?_map, List.getElem?_eq_getElem ht, Option.map_some, Option.some.injEq] at hpc
  rw [List.getElem?_map, List.getElem?_eq_getElem ht, Option.map_some]
  show some (l[t].state.pc.toNat, l[t].state.memory.wordAt l[t].state.pc.toNat) = _
  rw [h.words _ (List.getElem_mem ht), hpc]

/-- An orbit that comes back to a point goes around from there on. -/
theorem iterate_of_return {α : Type} {f : α → α} {x : α} {i j : Nat} (hij : i < j)
    (h : f^[i] x = f^[j] x) {t : Nat} (ht : i ≤ t) : f^[t] x = f^[i + (t - i) % (j - i)] x := by
  have hperiodic : Function.IsPeriodicPt f (j - i) (f^[i] x) := by
    show f^[j - i] (f^[i] x) = f^[i] x
    rw [← Function.iterate_add_apply, Nat.sub_add_cancel hij.le, h]
  rw [Nat.add_comm i, Function.iterate_add_apply, hperiodic.iterate_mod_apply,
    ← Function.iterate_add_apply, Nat.sub_add_cancel ht]

/-- **Control flow ignores data.**  Take steps that follow each other and return, made by
any calls but skips, of a machine that is in any state its program can bring it to.  If two
of them are at the same address, then the same addresses and words follow after both, so
the later steps go around between the two; and so does the address at which the machine is
left, which is where a further step is made.  Only a fault ends this. -/
theorem loop_left_by_fault_only {rom : Array Byte} {config : Config} {journal : Log.Journal}
    {start : Machine} (h : load rom config journal = .ok start) (before calls : List Call)
    (hskip : Call.skip ∉ calls)
    (hreturn : ∀ outcome ∈ (start.after before).outcomes calls, outcome = none) :
    let visited := (start.after before).executed calls
    ∀ (i j : Nat) (hij : i < j) (hj : j < visited.length), visited[i].1 = visited[j].1 →
      (∀ k, j + k < visited.length → visited[i + k]? = visited[j + k]?)
      ∧ (∀ t, i ≤ t → t < visited.length →
        visited[t]? = visited[i + (t - i) % (j - i)]?)
      ∧ ∃ t, ∃ ht : t < j, i ≤ t
        ∧ ((start.after before).after calls).state.pc.toNat = visited[t].1 := by
  intro visited i j hij hj hrevisit
  obtain ⟨-, rfl⟩ := load_eq_ok_iff.1 h
  have hhealthy := (healthy_loaded rom config journal).after before
  have horbit := hhealthy.orbit_stepped rfl hskip hreturn
  set m := (loaded rom config journal).after before
  set f := m.state.memory.successor
  have hlength : visited.length = (m.stepped calls).length := List.length_map _
  have hget : ∀ t < visited.length,
      visited[t]?
        = some ((f^[t] m.state.pc).toNat, m.state.memory.wordAt (f^[t] m.state.pc).toNat) :=
    fun t ht => horbit.getElem_executed (hlength ▸ ht)
  have haddress : ∀ t (ht : t < visited.length), visited[t].1 = (f^[t] m.state.pc).toNat := by
    intro t ht
    have hsome := hget t ht
    rw [List.getElem?_eq_getElem ht, Option.some.injEq] at hsome
    rw [hsome]
  have hsame : f^[i] m.state.pc = f^[j] m.state.pc := by
    rw [haddress i (by omega), haddress j hj] at hrevisit
    exact UInt16.toNat_inj.1 hrevisit
  have hinside : ∀ t, i + (t - i) % (j - i) < j := by
    intro t
    have hmod := Nat.mod_lt (t - i) (show 0 < j - i by omega)
    omega
  refine ⟨fun k hk => ?_, fun t hit ht => ?_, ?_⟩
  · rw [hget _ (by omega), hget _ hk, Nat.add_comm i, Nat.add_comm j,
      Function.iterate_add_apply, Function.iterate_add_apply, hsame]
  · rw [hget _ ht, hget _ (lt_trans (hinside t) hj), iterate_of_return hij hsame hit]
  · -- the calls have led to where their last step leads
    refine ⟨_, hinside visited.length, Nat.le_add_right _ _, ?_⟩
    rw [haddress _ (lt_trans (hinside _) hj), ← iterate_of_return hij hsame (by omega), hlength,
      horbit.last_eq]

/-- A program that jumps to itself comes back to its one address with every step. -/
theorem loop_left_by_fault_only_selfJump :
    let calls := [Call.step, .step, .step]
    ∃ m, load selfJump .traced plainJournal = .ok m
      ∧ Call.skip ∉ calls
      ∧ (∀ outcome ∈ m.outcomes calls, outcome = none)
      ∧ (m.executed calls)[1]? = (m.executed calls)[2]?
      ∧ (m.after calls).state.pc.toNat = 0x200 := by
  intro calls
  -- the machine is only used through what is known of its steps
  obtain ⟨m, hm⟩ : ∃ m, m = loaded selfJump .traced plainJournal := ⟨_, rfl⟩
  have hload : load selfJump .traced plainJournal = .ok m := load_eq_ok_iff.2 ⟨by decide, hm⟩
  have hskip : Call.skip ∉ calls := by decide
  have hstep (k : Machine) (hk : k.state = m.state) :
      k.step.2 = none ∧ k.step.1.state = m.state := by
    have hadv : advance k.state = .ok (m.state, 0x1200) := by
      rw [hk, hm]
      exact advance_loaded_selfJump .traced plainJournal
    rw [step_of_ok hadv]
    exact ⟨rfl, rfl⟩
  obtain ⟨hone, hstate⟩ := hstep m rfl
  obtain ⟨htwo, hstate'⟩ := hstep m.step.1 hstate
  obtain ⟨hthree, -⟩ := hstep m.step.1.step.1 hstate'
  have hstepped : m.stepped calls = [m, m.step.1, m.step.1.step.1] := by
    rw [stepped_step, stepped_step, stepped_step, stepped]
  have hreturn : ∀ outcome ∈ m.outcomes calls, outcome = none := by
    rw [outcomes_eq_map_stepped, hstepped]
    simp [hone, htwo, hthree]
  have hexecuted : m.executed calls = [m, m.step.1, m.step.1.step.1].map
      fun k => (k.state.pc.toNat, k.state.word) := by
    rw [executed, hstepped]
  have hloop := loop_left_by_fault_only hload [] calls hskip hreturn 0 1 Nat.zero_lt_one
  simp only [after_nil, hexecuted, List.map_cons, List.map_nil] at hloop
  obtain ⟨hsame, -, t, ht, -, hlast⟩ := hloop (by simp) (by simp [hstate])
  refine ⟨m, hload, hskip, hreturn, ?_, ?_⟩
  · rw [hexecuted]
    exact hsame 1 (by simp)
  obtain rfl := Nat.lt_one_iff.1 ht
  have hstart : m.state.pc.toNat = 0x200 := by
    rw [hm]
    show (UInt16.ofNat 0x200).toNat = 0x200
    decide
  exact hlast.trans hstart

end Machine

end Chip8
