/-
The use principle: a run of the core depends only on the bytes it reads.

A step reads the two bytes of its word, if the word lies in memory, and for a
sprite that is drawn the bytes of the rows that land on the screen.  A mask is
computed for the whole screen at once and looks up a byte for every pixel, also
beside the sprite and below it; that those bytes do not matter is what has to be
shown.

* `State.Reads` — the addresses that a step reads;
* `State.sprite_withMemory` — a sprite is decided by the bytes of its visible
  rows;
* `State.step_withMemory`, `State.after_withMemory` — with other bytes where
  nothing is read, a step and a run do the same, and leave the other bytes alone;
* `State.run_depends_on_reads` — so two runs that read the same bytes show the
  same words and the same states, and a byte that is not read may be anything.

Design notes: that two states differ in their memories at most is said by
replacing the memory of one of them.  The statements then are equations between
states, which a step can be rewritten with.
-/
import Chip8.Proofs.Iteration
import Chip8.Proofs.Raster

namespace Chip8

namespace State

/-- What two states have in common that differ in their memories at most. -/
structure Alike (s t : State) : Prop where
  registers : t.registers = s.registers
  pc : t.pc = s.pc
  index : t.index = s.index
  display : t.display = s.display
  fault : t.fault = s.fault

/-- The addresses that a step reads: those of the word, if it lies in memory, and
if the word draws a sprite and does not fail, those of the rows of the sprite that
land on the screen. -/
inductive Reads (s : State) : Nat → Prop
  | high (h : s.Fits) : Reads s s.pc.toNat
  | low (h : s.Fits) : Reads s (s.pc.toNat + 1)
  | row (hstep : s.step.1.fault = FaultCode.none) (hdraw : s.word / 0x1000 = 0xD) {r : Nat}
      (hr : r < min (s.word % 0x10) (32 - (s.register (nibble (s.word / 0x10))).toNat % 32)) :
      Reads s (s.index.toNat + r)

/-- A state with another memory. -/
def withMemory (s : State) (m : Memory) : State := { s with memory := m }

/-- A state with one byte of memory changed, if there is such a byte. -/
def poke (s : State) (a : Nat) (b : Byte) : State :=
  s.withMemory (s.memory.setIfInBounds a b)

@[simp] theorem withMemory_memory (s : State) (m : Memory) : (s.withMemory m).memory = m := rfl

theorem alike_withMemory (s : State) (m : Memory) : s.Alike (s.withMemory m) :=
  ⟨rfl, rfl, rfl, rfl, rfl⟩

theorem Alike.eq_withMemory {s t : State} (h : s.Alike t) : t = s.withMemory t.memory := by
  obtain ⟨hregisters, hpc, hindex, hdisplay, hfault⟩ := h
  cases t
  simp_all [withMemory]

theorem byteAt_poke_of_ne {s : State} {a c : Nat} (h : c ≠ a) (b : Byte) :
    (s.poke a b).memory.byteAt c = s.memory.byteAt c := by
  rw [poke, withMemory_memory, Memory.byteAt, Memory.byteAt,
    Vector.getElem?_setIfInBounds_ne h.symm]

/-! ### A sprite and a word -/

variable {s : State} {m : Memory}

/-- The mask of a sprite is decided by the bytes of its visible rows: all other
pixels are dark whatever byte is looked up for them. -/
theorem sprite_withMemory {x y : Register} {n : Fin 16} (hr : s.refusal (.draw x y n) = none)
    (hmem : ∀ r < s.visibleRows y n,
      m.byteAt (s.index.toNat + r) = s.memory.byteAt (s.index.toNat + r)) :
    (s.withMemory m).sprite x y n = s.sprite x y n := by
  have hr' : (s.withMemory m).refusal (.draw x y n) = none := hr
  rw [sprite_eq_rowsMask hr, sprite_eq_rowsMask hr']
  show Canvas.rowsMask (s.withMemory m).bytes s.index.toNat ((s.register x).toNat % 64)
    ((s.register y).toNat % 32) n.val = _
  ext i j
  rw [Canvas.rowsMask, Canvas.rowsMask, Display.get_ofFn, Display.get_ofFn]
  by_cases hrow : (s.register y).toNat % 32 ≤ j.val
      ∧ j.val < (s.register y).toNat % 32 + n.val
  · -- the row is on the screen, so it is one of the visible ones
    have hvisible : j.val - (s.register y).toNat % 32 < s.visibleRows y n := by
      unfold visibleRows screenHeight
      omega
    rw [bytes, bytes, withMemory_memory, hmem _ hvisible]
  · rw [decide_eq_false hrow, Bool.false_and, Bool.false_and]

theorem word_withMemory (hhigh : m.byteAt s.pc.toNat = s.memory.byteAt s.pc.toNat)
    (hlow : m.byteAt (s.pc.toNat + 1) = s.memory.byteAt (s.pc.toNat + 1)) :
    (s.withMemory m).word = s.word := by
  show m.wordAt s.pc.toNat = s.memory.wordAt s.pc.toNat
  rw [Memory.wordAt, Memory.wordAt, hhigh, hlow]

/-- Carrying an instruction out with another memory, which holds the same sprite
if one is drawn. -/
theorem exec_withMemory {i : Instruction}
    (hsprite : ∀ x y n, i = .draw x y n → s.refusal i = none →
      (s.withMemory m).sprite x y n = s.sprite x y n) :
    (s.withMemory m).exec i = (s.exec i).withMemory m := by
  cases i with
  | draw x y n =>
    show (s.withMemory m).draw x y n = (s.draw x y n).withMemory m
    by_cases hin : s.index.toNat + s.visibleRows y n ≤ memorySize
    · have hin' : (s.withMemory m).index.toNat + (s.withMemory m).visibleRows y n ≤ memorySize :=
        hin
      rw [draw_of_le hin, draw_of_le hin',
        hsprite x y n rfl (refusal_draw_eq_none_iff.2 hin)]
      rfl
    · have hout : memorySize < (s.withMemory m).index.toNat + (s.withMemory m).visibleRows y n :=
        Nat.not_le.1 hin
      rw [draw_of_lt (Nat.not_le.1 hin), draw_of_lt hout]
      rfl
  | _ => rfl

/-! ### Steps and runs -/

theorem after_memory (s : State) (n : Nat) : (s.after n).memory = s.memory := by
  induction n with
  | zero => rfl
  | succ n ih => rw [after_succ, step_memory, ih]

/-- **A step depends only on the bytes it reads.**  With another memory that
agrees on them it does the same, and leaves that memory as it is. -/
theorem step_withMemory (h : ∀ a, s.Reads a → m.byteAt a = s.memory.byteAt a) :
    (s.withMemory m).step = (s.step.1.withMemory m, s.step.2) := by
  by_cases hfits : s.Fits
  · have hfits' : (s.withMemory m).Fits := hfits
    have hword : (s.withMemory m).word = s.word :=
      word_withMemory (h _ (.high hfits)) (h _ (.low hfits))
    by_cases hf : s.fault = FaultCode.none
    · have hf' : (s.withMemory m).fault = FaultCode.none := hf
      rw [step_of_fits hf hfits, step_of_fits hf' hfits', hword]
      show ((s.moveOn.withMemory m).exec _, _) = _
      rw [exec_withMemory]
      -- a draw that is not refused reads the visible rows
      intro x y n hdraw hr
      rw [refusal_moveOn] at hr
      obtain ⟨hd, -, rfl, hn⟩ := (Instruction.ofWord_eq_draw_iff s.word_lt).1 hdraw
      have hstep : s.step.1.fault = FaultCode.none := by
        rw [step_of_fits hf hfits]
        exact (exec_moveOn_fault hr).trans hf
      rw [hdraw] at hr
      apply sprite_withMemory (s := s.moveOn) hr
      intro r hrow
      apply h _ (.row hstep hd _)
      rw [← hn]
      exact hrow
    · -- with a fault recorded, nothing but the word is read
      have hf' : (s.withMemory m).fault ≠ FaultCode.none := hf
      rw [step_of_fault hf, step_of_fault hf', fetch_of_fits hfits, fetch_of_fits hfits', hword]
      rfl
  · have hnot : ¬ (s.withMemory m).Fits := hfits
    rw [step_of_not_fits hfits, step_of_not_fits hnot]
    rfl

/-- A run depends only on the bytes it reads. -/
theorem after_withMemory {n : Nat}
    (h : ∀ i < n, ∀ a, (s.after i).Reads a → m.byteAt a = s.memory.byteAt a) :
    (s.withMemory m).after n = (s.after n).withMemory m := by
  induction n with
  | zero => rfl
  | succ n ih =>
    have hbefore := ih fun i hi => h i (Nat.lt_succ_of_lt hi)
    have hreads : ∀ a, (s.after n).Reads a → m.byteAt a = (s.after n).memory.byteAt a := by
      intro a ha
      rw [after_memory]
      exact h n (Nat.lt_succ_self n) a ha
    rw [after_succ, after_succ, hbefore, step_withMemory hreads]

/-- **A run depends only on the bytes it reads.**  Two states that differ in their
memories at most, and agree on all bytes that a run of one of them reads, show the
same words and are alike after every step.  So a byte that is not read, such as
one beside a sprite or of a row below the screen, may be anything. -/
theorem run_depends_on_reads (s : State) (n : Nat) :
    (∀ t, s.Alike t →
        (∀ i < n, ∀ a, (s.after i).Reads a → t.memory.byteAt a = s.memory.byteAt a) →
        ∀ i < n, (t.after i).step.2 = (s.after i).step.2
          ∧ (s.after (i + 1)).Alike (t.after (i + 1)))
      ∧ ∀ a b, (∀ i < n, ¬ (s.after i).Reads a) →
        ∀ i < n, ((s.poke a b).after i).step.2 = (s.after i).step.2
          ∧ (s.after (i + 1)).Alike ((s.poke a b).after (i + 1)) := by
  have hsame : ∀ m : Memory,
      (∀ i < n, ∀ a, (s.after i).Reads a → m.byteAt a = s.memory.byteAt a) →
      ∀ i < n, ((s.withMemory m).after i).step.2 = (s.after i).step.2
        ∧ (s.after (i + 1)).Alike ((s.withMemory m).after (i + 1)) := by
    intro m hmem i hi
    have hbefore := after_withMemory fun j hj => hmem j (Nat.lt_trans hj hi)
    have hreads : ∀ a, (s.after i).Reads a → m.byteAt a = (s.after i).memory.byteAt a := by
      rw [after_memory]
      exact hmem i hi
    rw [after_succ, after_succ, hbefore, step_withMemory hreads]
    exact ⟨rfl, alike_withMemory _ m⟩
  refine ⟨fun t halike hmem => ?_, fun a b hunread => ?_⟩
  · rw [halike.eq_withMemory]
    exact hsame t.memory hmem
  · refine hsame _ fun i hi c hc => ?_
    have hne : c ≠ a := by
      rintro rfl
      exact hunread i hi hc
    exact byteAt_poke_of_ne hne b

/-- A state about to draw a sprite of two rows at the lower edge of the screen; the
byte of the second row is left open. -/
def atLowerEdge (second : Byte) : State where
  memory := Memory.image #[0xD0, 0x12, 0xFF, second]
  registers := (Vector.replicate 16 0).set 1 31
  index := 0x202

theorem word_atLowerEdge (second : Byte) : (atLowerEdge second).word = 0xD012 := by
  have hfits : programStart + #[0xD0, 0x12, 0xFF, second].size ≤ memorySize := by
    show 0x200 + 4 ≤ 4095
    decide
  show (Memory.image _).wordAt 0x200 = 0xD012
  rw [Memory.wordAt, Memory.byteAt_image hfits, Memory.byteAt_image hfits]
  rfl

/-- Only the first of the two rows lands on the screen and is read. -/
theorem reads_atLowerEdge_iff {second : Byte} {a : Nat} :
    (atLowerEdge second).Reads a ↔ a = 0x200 ∨ a = 0x201 ∨ a = 0x202 := by
  have hfits : (atLowerEdge second).Fits := by
    show (UInt16.ofNat 0x200).toNat + 1 < 4095
    decide
  constructor
  · intro h
    cases h with
    | high h => exact Or.inl rfl
    | low h => exact Or.inr (Or.inl rfl)
    | row hstep hdraw hr =>
      rw [word_atLowerEdge] at hr
      obtain rfl := Nat.lt_one_iff.1 hr
      exact Or.inr (Or.inr rfl)
  · rintro (rfl | rfl | rfl)
    · exact .high hfits
    · exact .low hfits
    · have hdraw : Instruction.ofWord 0xD012 = .draw 0 1 2 := by decide
      have hr : (atLowerEdge second).refusal (Instruction.ofWord (atLowerEdge second).word)
          = none := by
        rw [word_atLowerEdge]
        show (atLowerEdge second).refusal (Instruction.ofWord 0xD012) = none
        rw [hdraw]
        rfl
      have hstep : (atLowerEdge second).step.1.fault = FaultCode.none := by
        rw [step_of_fits rfl hfits]
        exact exec_moveOn_fault hr
      have hrow : 0 < min ((atLowerEdge second).word % 0x10)
          (32 - ((atLowerEdge second).register (nibble ((atLowerEdge second).word / 0x10))).toNat
            % 32) := by
        rw [word_atLowerEdge]
        show 0 < min 2 (32 - (31 : Byte).toNat % 32)
        decide
      exact .row hstep (by rw [word_atLowerEdge]) hrow

/-- The byte of the second row may be anything. -/
theorem run_depends_on_reads_atLowerEdge :
    (atLowerEdge 0x00).Alike (atLowerEdge 0xFF)
      ∧ (∀ i < 1, ∀ a, ((atLowerEdge 0x00).after i).Reads a →
        (atLowerEdge 0xFF).memory.byteAt a = (atLowerEdge 0x00).memory.byteAt a)
      ∧ ((atLowerEdge 0x00).after 1).Alike ((atLowerEdge 0xFF).after 1)
      ∧ (∀ i < 1, ¬ ((atLowerEdge 0x00).after i).Reads 0x203)
      ∧ ((atLowerEdge 0x00).after 1).Alike (((atLowerEdge 0x00).poke 0x203 0xFF).after 1) := by
  have halike : (atLowerEdge 0x00).Alike (atLowerEdge 0xFF) := ⟨rfl, rfl, rfl, rfl, rfl⟩
  have hagree : ∀ i < 1, ∀ a, ((atLowerEdge 0x00).after i).Reads a →
      (atLowerEdge 0xFF).memory.byteAt a = (atLowerEdge 0x00).memory.byteAt a := by
    intro i hi a ha
    obtain rfl := Nat.lt_one_iff.1 hi
    show (Memory.image _).byteAt a = (Memory.image _).byteAt a
    rw [Memory.byteAt_image (by decide), Memory.byteAt_image (by decide)]
    rcases reads_atLowerEdge_iff.1 ha with rfl | rfl | rfl
    · rfl
    · rfl
    · rfl
  have hunread : ∀ i < 1, ¬ ((atLowerEdge 0x00).after i).Reads 0x203 := by
    intro i hi ha
    obtain rfl := Nat.lt_one_iff.1 hi
    exact absurd (reads_atLowerEdge_iff.1 ha) (by decide)
  obtain ⟨hother, hpoke⟩ := run_depends_on_reads (atLowerEdge 0x00) 1
  exact ⟨halike, hagree, (hother _ halike hagree 0 Nat.zero_lt_one).2, hunread,
    (hpoke 0x203 0xFF hunread 0 Nat.zero_lt_one).2⟩

end State

end Chip8
