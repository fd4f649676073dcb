/-
Straight-line programs.

A program of words that set a register, add to one, or set the address register is carried
out from its first word to its last, and what it computes can be read off the words: a
register holds what was last put into it and all that was added since.

* `assemble` — the bytes of some words, and `Memory.wordAt_image_assemble`: loaded as a
  program they are read back as these words, with zero behind them;
* `lastOf`, `since`, `total` — the last word of some kind, the words after it, and what a
  register has come to;
* `State.Carried` — the state after some words, `State.Carried.snoc` — and after one more;
* `Machine.run_straight_line` — the run of a whole program, and the step behind its end.

Design notes: the longest program of whole words that fits has 1791 of them and ends where
the last word of memory would begin.  The address behind it is out of range, and behind any
shorter program there is a zero.
-/
import Chip8.Proofs.Composition
import Chip8.Proofs.Drawing
import Chip8.Proofs.Locality
import Chip8.Proofs.Reference
import Chip8.Proofs.WrapAround
import Mathlib.Algebra.BigOperators.Group.List.Basic
import Mathlib.Data.List.DropRight

namespace Chip8

/-! ### Words and their bytes -/

/-- The bytes of some words, the high byte of each first. -/
def assemble (ws : List Nat) : Array Byte :=
  (ws.flatMap fun w => [UInt8.ofNat (w / 0x100), UInt8.ofNat (w % 0x100)]).toArray

theorem size_assemble (ws : List Nat) : (assemble ws).size = 2 * ws.length := by
  rw [assemble, List.size_toArray]
  induction ws with
  | nil => rfl
  | cons w ws ih =>
    simp only [List.flatMap_cons, List.length_append, ih, List.length_cons, List.length_nil]
    omega

theorem assemble_fits {ws : List Nat} (h : ws.length ≤ 1791) :
    programStart + (assemble ws).size ≤ memorySize := by
  rw [size_assemble, programStart, memorySize]
  omega

theorem getElem?_assemble (ws : List Nat) (i : Nat) :
    (assemble ws)[2 * i]? = ws[i]?.map (fun w => UInt8.ofNat (w / 0x100))
      ∧ (assemble ws)[2 * i + 1]? = ws[i]?.map (fun w => UInt8.ofNat (w % 0x100)) := by
  rw [assemble, List.getElem?_toArray, List.getElem?_toArray]
  induction ws generalizing i with
  | nil => exact ⟨rfl, rfl⟩
  | cons w ws ih =>
    cases i with
    | zero => exact ⟨rfl, rfl⟩
    | succ i => exact ih i

/-- The words of a program are read back from memory, and behind them zero. -/
theorem Memory.wordAt_image_assemble {ws : List Nat} (hws : ∀ w ∈ ws, w < 65536)
    (hsize : programStart + (assemble ws).size ≤ memorySize) (i : Nat) :
    (image (assemble ws)).wordAt (0x200 + 2 * i) = ws[i]?.getD 0 := by
  obtain ⟨hhigh, hlow⟩ := getElem?_assemble ws i
  have hbyte (k : Nat) :
      (image (assemble ws)).byteAt (0x200 + k) = (assemble ws)[k]?.getD 0 := by
    rw [byteAt_image hsize, if_pos (Nat.le_add_right _ _), Nat.add_sub_cancel_left]
  rw [wordAt, Nat.add_assoc, hbyte, hbyte, hhigh, hlow]
  cases hw : ws[i]? with
  | none => rfl
  | some w =>
    have hlt := hws w (List.mem_of_getElem? hw)
    show 256 * (UInt8.ofNat (w / 0x100)).toNat + (UInt8.ofNat (w % 0x100)).toNat = w
    rw [UInt8.toNat_ofNat', UInt8.toNat_ofNat']
    omega

/-! ### What some words write -/

/-- Whether a word sets a register, adds to one, or sets the address register. -/
def Writes (w : Nat) : Prop :=
  w / 0x1000 = 0x6 ∨ w / 0x1000 = 0x7 ∨ w / 0x1000 = 0xA

/-- Whether a word sets a register. -/
def SetsRegister (x : Register) (w : Nat) : Prop :=
  w / 0x1000 = 0x6 ∧ x = nibble (w / 0x100)

/-- Whether a word adds to a register. -/
def AddsTo (x : Register) (w : Nat) : Prop :=
  w / 0x1000 = 0x7 ∧ x = nibble (w / 0x100)

/-- Whether a word sets the address register. -/
def SetsIndex (w : Nat) : Prop :=
  w / 0x1000 = 0xA

instance : DecidablePred Writes := fun _ => inferInstanceAs (Decidable (_ ∨ _ ∨ _))
instance (x : Register) : DecidablePred (SetsRegister x) :=
  fun _ => inferInstanceAs (Decidable (_ ∧ _))
instance (x : Register) : DecidablePred (AddsTo x) := fun _ => inferInstanceAs (Decidable (_ ∧ _))
instance : DecidablePred SetsIndex := fun _ => inferInstanceAs (Decidable (_ = _))

theorem Writes.lt {w : Nat} (h : Writes w) : w < 65536 := by
  unfold Writes at h
  omega

section Last

variable (p : Nat → Prop) [DecidablePred p]

/-- The last word with a property. -/
def lastOf (ws : List Nat) : Option Nat :=
  (ws.filter p).getLast?

/-- The words after the last one with a property. -/
def since (ws : List Nat) : List Nat :=
  ws.rtakeWhile fun w => ¬ p w

theorem lastOf_concat (ws : List Nat) (w : Nat) :
    lastOf p (ws ++ [w]) = if p w then some w else lastOf p ws := by
  by_cases h : p w
  · rw [lastOf, List.filter_append, List.filter_singleton, if_pos h]
    simp [h]
  · rw [lastOf, List.filter_append, List.filter_singleton, if_neg h]
    simp [h, lastOf]

theorem since_concat (ws : List Nat) (w : Nat) :
    since p (ws ++ [w]) = if p w then [] else since p ws ++ [w] := by
  by_cases h : p w
  · rw [since, List.rtakeWhile_concat_neg _ _ _ (by simpa using h), if_pos h]
  · rw [since, List.rtakeWhile_concat_pos _ _ _ (by simpa using h), if_neg h, since]

end Last

/-- What some words make of a register: the byte it was last set to, or zero, and all bytes
that were added to it since. -/
def total (x : Register) (ws : List Nat) : Nat :=
  ((lastOf (SetsRegister x) ws).map (· % 0x100)).getD 0
    + (((since (SetsRegister x) ws).filter (AddsTo x)).map (· % 0x100)).sum

theorem total_concat (x : Register) (ws : List Nat) (w : Nat) :
    total x (ws ++ [w]) =
      if SetsRegister x w then w % 0x100
      else total x ws + if AddsTo x w then w % 0x100 else 0 := by
  rw [total, lastOf_concat, since_concat]
  by_cases hset : SetsRegister x w
  · rw [if_pos hset, if_pos hset, if_pos hset]
    rfl
  · rw [if_neg hset, if_neg hset, if_neg hset, List.filter_append, List.map_append,
      List.sum_append, total, ← Nat.add_assoc]
    congr 1
    by_cases hadd : AddsTo x w
    · simp [hadd]
    · simp [hadd]

theorem Writes.ofWord {w : Nat} (h : Writes w) :
    w / 0x1000 = 0x6
        ∧ Instruction.ofWord w = .set (nibble (w / 0x100)) (Fin.ofNat 256 w)
      ∨ w / 0x1000 = 0x7
        ∧ Instruction.ofWord w = .add (nibble (w / 0x100)) (Fin.ofNat 256 w)
      ∨ w / 0x1000 = 0xA ∧ Instruction.ofWord w = .setIndex (Fin.ofNat 4096 w) := by
  have henc := Instruction.encodes_ofWord h.lt
  generalize Instruction.ofWord w = i at henc ⊢
  unfold Writes at h
  cases henc with
  | set hd => exact Or.inl ⟨hd, rfl⟩
  | add hd => exact Or.inr (Or.inl ⟨hd, rfl⟩)
  | setIndex hd => exact Or.inr (Or.inr ⟨hd, rfl⟩)
  | unknown hnot =>
    unfold Implemented at hnot
    omega
  | _ hd => omega

namespace State

/-! ### One word after the other -/

section Words

variable {w : Nat} (hw : Writes w) (s : State)
include hw

theorem exec_of_writes :
    (s.exec (Instruction.ofWord w)).fault = s.fault
      ∧ (s.exec (Instruction.ofWord w)).pc = s.pc
      ∧ (s.exec (Instruction.ofWord w)).display = s.display := by
  rcases hw.ofWord with ⟨-, hi⟩ | ⟨-, hi⟩ | ⟨-, hi⟩
  · rw [hi]
    exact ⟨rfl, rfl, rfl⟩
  · rw [hi]
    exact ⟨rfl, rfl, rfl⟩
  · rw [hi]
    exact ⟨rfl, rfl, rfl⟩

theorem index_exec_of_writes :
    (s.exec (Instruction.ofWord w)).index.toNat
      = if SetsIndex w then w % 0x1000 else s.index.toNat := by
  rcases hw.ofWord with ⟨hd, hi⟩ | ⟨hd, hi⟩ | ⟨hd, hi⟩
  · have hsets : ¬ SetsIndex w := fun h => absurd (hd.symm.trans h) (by decide)
    rw [hi, if_neg hsets]
    rfl
  · have hsets : ¬ SetsIndex w := fun h => absurd (hd.symm.trans h) (by decide)
    rw [hi, if_neg hsets]
    rfl
  · have hsets : SetsIndex w := hd
    rw [hi, if_pos hsets, exec_index, toNat_ofNat_address]
    rfl

theorem register_exec_of_writes (x : Register) :
    ((s.exec (Instruction.ofWord w)).register x).toNat =
      if SetsRegister x w then w % 0x100
      else ((s.register x).toNat + if AddsTo x w then w % 0x100 else 0) % 256 := by
  have hbyte : (s.register x).toNat < 256 := (s.register x).toNat_lt
  rcases hw.ofWord with ⟨hd, hi⟩ | ⟨hd, hi⟩ | ⟨hd, hi⟩
  · have hadds : ¬ AddsTo x w := fun h => absurd (hd.symm.trans h.1) (by decide)
    rw [hi, exec, register_setRegister]
    by_cases hx : x = nibble (w / 0x100)
    · have hsets : SetsRegister x w := ⟨hd, hx⟩
      rw [if_pos hx, if_pos hsets, toNat_ofNat_byte]
      rfl
    · have hsets : ¬ SetsRegister x w := fun h => hx h.2
      rw [if_neg hx, if_neg hsets, if_neg hadds, Nat.add_zero, Nat.mod_eq_of_lt hbyte]
  · have hsets : ¬ SetsRegister x w := fun h => absurd (hd.symm.trans h.1) (by decide)
    rw [hi, exec, register_setRegister, if_neg hsets]
    by_cases hx : x = nibble (w / 0x100)
    · -- the sum is taken of the register that the word names
      have hadds : AddsTo x w := ⟨hd, hx⟩
      rw [if_pos hx, if_pos hadds, ← hx, UInt8.toNat_add, toNat_ofNat_byte]
      rfl
    · have hadds : ¬ AddsTo x w := fun h => hx h.2
      rw [if_neg hx, if_neg hadds, Nat.add_zero, Nat.mod_eq_of_lt hbyte]
  · have hsets : ¬ SetsRegister x w := fun h => absurd (hd.symm.trans h.1) (by decide)
    have hadds : ¬ AddsTo x w := fun h => absurd (hd.symm.trans h.1) (by decide)
    rw [hi, if_neg hsets, if_neg hadds, Nat.add_zero, Nat.mod_eq_of_lt hbyte]
    rfl

end Words

/-- The state in which some words have been carried out from the start of a program on. -/
structure Carried (ws : List Nat) (s : State) : Prop where
  fault : s.fault = FaultCode.none
  pc : s.pc.toNat = 0x200 + 2 * ws.length
  display : s.display = Display.blank
  index : s.index.toNat = ((lastOf SetsIndex ws).map (· % 0x1000)).getD 0
  registers : ∀ x, (s.register x).toNat = total x ws % 256

theorem carried_nil (m : Memory) : Carried [] { memory := m } where
  fault := rfl
  pc := rfl
  display := rfl
  index := rfl
  registers x := by simp [register, total, lastOf, since]

theorem Carried.snoc {ws : List Nat} {s : State} (h : Carried ws s) {w : Nat} (hw : Writes w)
    (hfits : s.Fits) (hword : s.word = w) : Carried (ws ++ [w]) s.step.1 := by
  obtain ⟨hfault, hpc, hdisplay⟩ := exec_of_writes hw s.moveOn
  rw [step_of_fits h.fault hfits, hword]
  constructor
  · exact hfault.trans h.fault
  · rw [hpc, toNat_moveOn_pc hfits, h.pc, List.length_append, List.length_singleton]
    omega
  · exact hdisplay.trans h.display
  · rw [index_exec_of_writes hw, moveOn_index, h.index, lastOf_concat]
    by_cases hset : SetsIndex w
    · rw [if_pos hset, if_pos hset]
      rfl
    · rw [if_neg hset, if_neg hset]
  · intro x
    rw [register_exec_of_writes hw, total_concat]
    show (if _ then _ else ((s.register x).toNat + _) % 256) = _
    rw [h.registers]
    by_cases hset : SetsRegister x w
    · rw [if_pos hset, if_pos hset]
      omega
    · rw [if_neg hset, if_neg hset]
      exact Nat.mod_add_mod _ _ _

/-- The core carries the words of a program out in their order. -/
theorem carried_after {ws : List Nat} (hws : ∀ w ∈ ws, Writes w)
    (hsize : programStart + (assemble ws).size ≤ memorySize) {n : Nat} (hn : n ≤ ws.length) :
    Carried (ws.take n) (after { memory := Memory.image (assemble ws) } n) := by
  induction n with
  | zero => exact carried_nil _
  | succ n ih =>
    -- the words before have led to the address of the next one
    have hcarried := ih (Nat.le_of_succ_le hn)
    obtain ⟨s, hs⟩ : ∃ s, s = after { memory := Memory.image (assemble ws) } n := ⟨_, rfl⟩
    rw [after_succ, ← hs]
    rw [← hs] at hcarried
    have hpc : s.pc.toNat = 0x200 + 2 * n := by
      rw [hcarried.pc, List.length_take_of_le (Nat.le_of_succ_le hn)]
    have hmemory : s.memory = Memory.image (assemble ws) := by rw [hs, after_memory]
    have hfits : s.Fits := by
      rw [size_assemble, programStart, memorySize] at hsize
      rw [fits_iff, hpc]
      omega
    have hword : s.word = ws[n] := by
      rw [word, hmemory, hpc,
        Memory.wordAt_image_assemble (fun w hw => (hws w hw).lt) hsize, List.getElem?_eq_getElem hn,
        Option.getD_some]
    rw [List.take_succ_eq_append_getElem hn]
    exact hcarried.snoc (hws _ (List.getElem_mem hn)) hfits hword

end State

namespace Machine

/-- How the step behind the end of a straight-line program fails. -/
theorem Healthy.step_of_carried {ws : List Nat} {m : Machine} (hm : m.Healthy)
    (hws : ∀ w ∈ ws, Writes w) (hlength : ws.length ≤ 1791)
    (hmemory : m.state.memory = Memory.image (assemble ws))
    (hpc : m.state.pc.toNat = 0x200 + 2 * ws.length) :
    m.step.2 =
      if ws.length ≤ 1790 then some (.unimplemented 0 (0x200 + 2 * ws.length : Nat))
      else some (.outOfRange 0xFFE none) := by
  by_cases hshort : ws.length ≤ 1790
  · have hfits : m.state.Fits := by
      rw [State.fits_iff, hpc]
      omega
    have hword : m.state.word = 0 := by
      rw [State.word, hmemory, hpc,
        Memory.wordAt_image_assemble (fun w hw => (hws w hw).lt) (assemble_fits hlength),
        List.getElem?_eq_none le_rfl, Option.getD_none]
    have hstep := (hm.step_eq_unimplemented_iff hfits).2 (by rw [hword]; decide)
    rw [hword, hpc] at hstep
    rw [hstep, if_pos hshort]
    rfl
  · -- the program ends where no word begins any more
    have hfull : m.state.pc.toNat = 0xFFE := by omega
    rw [hm.step_beyond hfull.ge, hfull, if_neg hshort]
    rfl

/-- **A straight-line program computes the writes of its words.**  A program of words that
set a register, add to one, or set the address register is run to its end.  It has then made
as many steps as it has words, and stands behind the last one; every register holds what it
was last set to and all that was added to it since, modulo 256.  The step behind the end fails
at a word that is zero, or out of range if the program fills memory. -/
theorem run_straight_line {ws : List Nat} (hws : ∀ w ∈ ws, Writes w) (hlength : ws.length ≤ 1791)
    (config : Config) (journal : Log.Journal) :
    ∃ m, load (assemble ws) config journal = .ok m
      ∧ (m.run ws.length).2 = none
      ∧ (m.run ws.length).1.steps = ws.length
      ∧ (m.run ws.length).1.state.pc.toNat = 0x200 + 2 * ws.length
      ∧ (m.run ws.length).1.state.display = Display.blank
      ∧ (m.run ws.length).1.state.index.toNat
        = ((lastOf SetsIndex ws).map (· % 0x1000)).getD 0
      ∧ (∀ x, ((m.run ws.length).1.state.register x).toNat =
        (((lastOf (SetsRegister x) ws).map (· % 0x100)).getD 0
          + (((since (SetsRegister x) ws).filter (AddsTo x)).map (· % 0x100)).sum) % 256)
      ∧ (m.run ws.length).1.step.2 =
        if ws.length ≤ 1790 then some (.unimplemented 0 (0x200 + 2 * ws.length : Nat))
        else some (.outOfRange 0xFFE none) := by
  have hsize := assemble_fits hlength
  -- the machine is only used through what is known of its state
  obtain ⟨m, hm⟩ : ∃ m, m = loaded (assemble ws) config journal := ⟨_, rfl⟩
  have hstart : m.state = { memory := Memory.image (assemble ws) } := by
    rw [hm]
    rfl
  have hhealthy : m.Healthy := by
    rw [hm]
    exact healthy_loaded _ _ _
  have hnever : ∀ i ≤ ws.length, (m.state.after i).fault = FaultCode.none := by
    intro i hi
    rw [hstart]
    exact (State.carried_after hws hsize hi).fault
  obtain ⟨hend, hstate, hsteps⟩ := runFor_of_healthy hnever
  have hrun : m.run ws.length = ((runFor ws.length m).1, none) := by
    have hlimit : 1791 ≤ runLimit := by decide
    rw [run_nat (le_trans hlength hlimit), hend, Option.map_none]
  have hcarried := State.carried_after hws hsize le_rfl
  rw [List.take_length, ← hstart, ← hstate] at hcarried
  have hmemory : (runFor ws.length m).1.state.memory = Memory.image (assemble ws) := by
    rw [hstate, State.after_memory, hstart]
  have hafter : (runFor ws.length m).1.Healthy :=
    runFor_invariant (fun _ => Healthy.step) _ hhealthy
  refine ⟨m, load_eq_ok_iff.2 ⟨hsize, hm⟩, ?_⟩
  rw [hrun]
  refine ⟨rfl, ?_, hcarried.pc, hcarried.display, hcarried.index, hcarried.registers,
    hafter.step_of_carried hws hlength hmemory hcarried.pc⟩
  rw [hsteps, hm]
  exact Nat.zero_add _

/-- A register that is set, added to beyond a byte, and set and added to again, beside one
that is only added to; and a program that fills memory. -/
theorem run_straight_line_mixed :
    let ws := [0x6005, 0x70FF, 0x7F80, 0x60F0, 0x7010, 0x7FFF, 0xA123, 0x7001]
    let full := List.replicate 1791 0xA123
    (∀ w ∈ ws, Writes w) ∧ ws.length ≤ 1791
      ∧ (∃ m, load (assemble ws) .traced plainJournal = .ok m
        ∧ (m.run 8).1.state.pc.toNat = 0x210
        ∧ (m.run 8).1.state.index.toNat = 0x123
        ∧ ((m.run 8).1.state.register 0).toNat = 0x01
        ∧ ((m.run 8).1.state.register 0xF).toNat = 0x7F
        ∧ (m.run 8).1.step.2 = some (.unimplemented 0 0x210))
      ∧ (∀ w ∈ full, Writes w) ∧ full.length ≤ 1791
      ∧ ∃ m, load (assemble full) .traced plainJournal = .ok m
        ∧ (m.run 1791).1.steps = 1791
        ∧ (m.run 1791).1.step.2 = some (.outOfRange 0xFFE none) := by
  intro ws full
  have hws : ∀ w ∈ ws, Writes w := by decide
  have hlength : ws.length ≤ 1791 := by decide
  have hfull : ∀ w ∈ full, Writes w := by
    intro w hw
    rw [List.eq_of_mem_replicate hw]
    decide
  have hlast : full.length = 1791 := List.length_replicate
  obtain ⟨m, hload, -, -, hpc, -, hindex, hregisters, hnext⟩ :=
    run_straight_line hws hlength .traced plainJournal
  obtain ⟨k, hload', -, hsteps, -, -, -, -, hend⟩ :=
    run_straight_line hfull hlast.le .traced plainJournal
  rw [hlast] at hsteps hend
  refine ⟨hws, hlength, ⟨m, hload, hpc, hindex.trans (by decide), ?_, ?_, ?_⟩, hfull, hlast.le, k,
    hload', hsteps, hend.trans (if_neg (by decide))⟩
  · exact (hregisters 0).trans (by decide)
  · exact (hregisters 0xF).trans (by decide)
  · exact hnext.trans (if_pos (by decide))

end Machine

end Chip8
