/-
Runs compose.

Running `a` instructions and then `b` is running `a + b`: the two ways leave the
same machine, with its counters, its clock and everything it has printed, and end
in the same way.  If the first run stops at a fault, the long one stops there as
well.

* `Machine.run_nat` — a run that can be counted is so many steps;
* `Machine.run_add` — the law, with the lengths for which it holds;
* `Machine.run_add_too_long` — a length for which it does not: the machine refuses
  a run that is too long to be counted, and so does not come to the fault at which
  a shorter run has stopped.

Design notes: the law is an equation of machines and not of their states alone,
so it speaks about the journal as well.  A reading of the clock that is taken
twice, or a line that is printed at the seam of the two runs, would break it.
-/
import Chip8.Proofs.Faults
import Chip8.Proofs.Iteration

namespace Chip8

namespace Machine

variable {m : Machine}

theorem run_of_nonpos (m : Machine) {k : Int} (hk : k ≤ 0) : m.run k = (m, none) := by
  have hle : k ≤ runLimit := le_trans hk (by decide)
  rw [run_of_le hle, Int.toNat_of_nonpos hk, runFor_zero, Option.map_none]

theorem run_nat {n : Nat} (hn : n ≤ runLimit) :
    m.run n = ((runFor n m).1, (runFor n m).2.map .fault) := by
  rw [run_of_le (Int.ofNat_le.2 hn), Int.toNat_natCast]

theorem run_nat_of_lt {n : Nat} (hn : runLimit < n) : m.run n = (m, some .tooLong) :=
  run_of_lt (Int.ofNat_lt.2 hn)

/-- A run whose first part returns goes on with the second part. -/
theorem run_add_of_return {a b : Nat} (hab : a + b ≤ runLimit) (ha : (m.run a).2 = none) :
    m.run (a + b : Nat) = (m.run a).1.run b := by
  have hla : a ≤ runLimit := le_trans (Nat.le_add_right a b) hab
  have hlb : b ≤ runLimit := le_trans (Nat.le_add_left b a) hab
  rw [run_nat hla, Option.map_eq_none_iff] at ha
  rw [run_nat hab, run_nat hla, run_nat hlb, runFor_add, ha]

/-- A run whose first part stops, stops there. -/
theorem run_add_of_stop {a b : Nat} (hab : a + b ≤ runLimit) {stop : Stop}
    (ha : (m.run a).2 = some stop) : m.run (a + b : Nat) = m.run a := by
  have hla : a ≤ runLimit := le_trans (Nat.le_add_right a b) hab
  rw [run_nat hla, Option.map_eq_some_iff] at ha
  obtain ⟨fault, hfault, -⟩ := ha
  rw [run_nat hab, run_nat hla, runFor_add, hfault]

/-- **Runs compose.**  A run of `a` instructions, and if it returns one of `b`
instructions after it, leave the same machine as a single run of `a + b`, and end
in the same way.  This needs `a + b` to be a length that a run can count, unless
there is no first part or the first part is too long already; else the single run
is refused.  A run of no instructions, or of a negative number, does nothing. -/
theorem run_add (m : Machine) (a b : Nat) :
    (a = 0 ∨ a + b ≤ runLimit ∨ runLimit < a →
        ((m.run a).2 = none → m.run (a + b : Nat) = (m.run a).1.run b)
        ∧ ∀ stop, (m.run a).2 = some stop → m.run (a + b : Nat) = m.run a)
      ∧ (a ≤ runLimit → runLimit < a + b → m.run (a + b : Nat) = (m, some .tooLong))
      ∧ ∀ k : Int, k ≤ 0 → m.run k = (m, none) := by
  refine ⟨?_, fun _ hab => run_nat_of_lt hab, fun k => run_of_nonpos m⟩
  rintro (rfl | hab | ha)
  · have hzero : m.run (0 : Nat) = (m, none) := run_of_nonpos m le_rfl
    rw [hzero, Nat.zero_add]
    exact ⟨fun _ => rfl, fun stop hstop => absurd hstop (by simp)⟩
  · exact ⟨run_add_of_return hab, fun stop => run_add_of_stop hab⟩
  · -- both runs are refused before their first step
    have hab : runLimit < a + b := Nat.lt_add_right b ha
    rw [run_nat_of_lt ha, run_nat_of_lt hab]
    exact ⟨fun hnone => absurd hnone (by simp), fun stop _ => rfl⟩

/-- A program that jumps to itself can be run for as long as a run can count. -/
theorem run_loaded_selfJump (config : Config) (journal : Log.Journal) {n : Nat}
    (hn : n ≤ runLimit) :
    ((loaded selfJump config journal).run n).2 = none
      ∧ ((loaded selfJump config journal).run n).1.steps = n := by
  obtain ⟨hend, hsteps⟩ := runFor_loaded_selfJump config journal n
  rw [run_nat hn, hend]
  exact ⟨rfl, hsteps⟩

/-- A program that jumps to itself can be run in parts, and an empty program fails
in the first part. -/
theorem run_add_selfJump :
    ((loaded selfJump .traced plainJournal).run 2).2 = none
      ∧ (loaded selfJump .traced plainJournal).run 5
        = ((loaded selfJump .traced plainJournal).run 2).1.run 3
      ∧ ((loaded #[] .traced plainJournal).run 2).2 = some (.fault (.unimplemented 0 0x200))
      ∧ (loaded #[] .traced plainJournal).run 5 = (loaded #[] .traced plainJournal).run 2 := by
  have hlimit : 2 + 3 ≤ runLimit := by decide
  have hjump : ((loaded selfJump .traced plainJournal).run 2).2 = none :=
    (run_loaded_selfJump .traced plainJournal (n := 2) (by decide)).1
  have hempty : ((loaded #[] .traced plainJournal).run 2).2
      = some (.fault (.unimplemented 0 0x200)) := by
    rw [run_eq_report (step_outcome_loaded_empty .traced plainJournal) (by decide) (by decide)]
  exact ⟨hjump, ((run_add _ 2 3).1 (Or.inr (Or.inl hlimit))).1 hjump, hempty,
    ((run_add _ 2 3).1 (Or.inr (Or.inl hlimit))).2 _ hempty⟩

/-- The longest run of an empty program stops at its fault, and a run with one more
instruction is refused. -/
theorem run_add_too_long :
    ∃ m f, load #[] {} plainJournal = .ok m
      ∧ (m.run 0x7FFFFFFFFFFFFFFF).2 = some (.fault f)
      ∧ (m.run (0x7FFFFFFFFFFFFFFF + 1)).2 ≠ some (.fault f) := by
  have hstep := step_outcome_loaded_empty {} plainJournal
  refine ⟨loaded #[] {} plainJournal, .unimplemented 0 0x200,
    load_eq_ok_iff.2 ⟨by decide, rfl⟩, ?_, ?_⟩
  · rw [run_eq_report hstep (by decide) (by decide)]
  · rw [run_of_lt (by decide)]
    exact fun h => Stop.noConfusion (Option.some.inj h)

end Machine

end Chip8
