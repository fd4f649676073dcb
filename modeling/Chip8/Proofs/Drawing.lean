/-
What a word that draws does to a state.

The word is carried out on any state whose address register has twelve bits,
whatever its memory, registers, screen, program counter and fault are:

* `State.execute_drawWord` — the word is a draw with its three operands;
* `State.refusal_draw_eq_none_iff_rows` — it is carried out if all rows that land
  on the screen are in memory;
* `Canvas.collision_drawRows_iff` — two nested loops over rows and bits turn a lit
  pixel off exactly if some set bit of the sprite falls on one;
* `State.execute_draw_eq_loops` — the draw is that of the two loops, the flag says
  whether a lit pixel was turned off, and nothing else changes.

Design notes: the anchor is read before the flag is set, so the flag register may be
one of the two registers that hold it.
-/
import Chip8.Proofs.Raster

namespace Chip8

namespace Canvas

theorem rowsMask_get_iff {memory : Nat → Nat} {start x0 y0 rows : Nat} {i : Column} {j : Row} :
    (rowsMask memory start x0 y0 rows).get i j = true ↔
      ∃ r < rows, ∃ b < 8, i.val = x0 + b ∧ j.val = y0 + r
        ∧ (memory (start + r)).testBit (7 - b) = true := by
  simp only [rowsMask, bitAt, Display.get_ofFn, Bool.and_eq_true, decide_eq_true_eq]
  constructor
  · rintro ⟨hrow, hcol, hbit⟩
    exact ⟨j.val - y0, by omega, i.val - x0, by omega, by omega, by omega, hbit⟩
  · rintro ⟨r, hr, b, hb, hi, hj, hbit⟩
    -- the row and the bit are the distances from the anchor
    obtain rfl : r = j.val - y0 := by omega
    obtain rfl : b = i.val - x0 := by omega
    exact ⟨by omega, by omega, hbit⟩

theorem collision_drawRows_iff {memory : Nat → Nat} {start x0 y0 rows : Nat} {d : Display} :
    (drawRows memory start x0 y0 rows { display := d }).collision = true ↔
      ∃ r < rows, ∃ b < 8, ∃ (hx : x0 + b < 64) (hy : y0 + r < 32),
        (memory (start + r)).testBit (7 - b) = true
          ∧ d.get ⟨x0 + b, hx⟩ ⟨y0 + r, hy⟩ = true := by
  rw [drawRows_eq_paint, paint, Bool.false_or, Display.overlaps_iff]
  constructor
  · rintro ⟨i, j, hlit, hmask⟩
    obtain ⟨r, hr, b, hb, hi, hj, hbit⟩ := rowsMask_get_iff.1 hmask
    have hx : x0 + b < 64 := hi ▸ i.isLt
    have hy : y0 + r < 32 := hj ▸ j.isLt
    obtain rfl : i = ⟨x0 + b, hx⟩ := Fin.ext hi
    obtain rfl : j = ⟨y0 + r, hy⟩ := Fin.ext hj
    exact ⟨r, hr, b, hb, hx, hy, hbit, hlit⟩
  · rintro ⟨r, hr, b, hb, hx, hy, hbit, hlit⟩
    exact ⟨_, _, hlit, rowsMask_get_iff.2 ⟨r, hr, b, hb, rfl, rfl, hbit⟩⟩

end Canvas

/-- The word that draws a sprite of some height at the position in two registers. -/
def drawWord (x y : Register) (n : Fin 16) : Nat :=
  0xD000 + 0x100 * x.val + 0x10 * y.val + n.val

theorem Instruction.ofWord_drawWord (x y : Register) (n : Fin 16) :
    ofWord (drawWord x y n) = .draw x y n := by
  have hx := x.isLt
  have hy := y.isLt
  have hn := n.isLt
  have hlt : drawWord x y n < 65536 := by
    unfold drawWord
    omega
  refine (ofWord_eq_draw_iff hlt).2 ⟨?_, Fin.ext ?_, Fin.ext ?_, ?_⟩
  all_goals
    simp only [drawWord, val_nibble]
    omega

namespace State

variable {s : State} {x y : Register} {n : Fin 16}

theorem execute_drawWord : s.execute (drawWord x y n) = s.exec (.draw x y n) := by
  rw [execute, Instruction.ofWord_drawWord]

theorem register_setRegister (s : State) (x r : Register) (value : Byte) :
    (s.setRegister x value).register r = if r = x then value else s.register r := by
  rw [register, setRegister, register, Fin.getElem_fin, Vector.getElem_set, Fin.getElem_fin]
  by_cases hr : r = x
  · rw [if_pos (by rw [hr]), if_pos hr]
  · rw [if_neg (fun h => hr (Fin.ext h.symm)), if_neg hr]

/-- A draw is carried out if all rows that land on the screen are in memory. -/
theorem refusal_draw_eq_none_iff_rows (hI : s.index.toNat ≤ addressMask) :
    s.refusal (.draw x y n) = none ↔
      ∀ r < n.val, (s.register y).toNat % 32 + r < 32 → s.index.toNat + r < 4095 := by
  have hreason : s.refusal (.draw x y n) = none ↔ ¬ s.refusal (.draw x y n) = some .outOfRange := by
    rw [refusal]
    split
    · simp
    · simp
  rw [hreason, refusal_draw_iff hI]
  constructor
  · intro hnone r hr hvisible
    by_contra hge
    exact hnone ⟨r, hr, hvisible, Nat.le_of_not_lt hge⟩
  · rintro hrows ⟨r, hr, hvisible, hge⟩
    exact absurd (hrows r hr hvisible) (Nat.not_lt.2 hge)

/-- **A draw is two nested loops.**  If some row of the sprite lands on the screen and
lies outside memory, the word only records that.  Else it draws like the loops that
visit the rows in order and the bits of each row from the left, and turn over the
pixel of each set bit that lands on the screen.  The flag is one if such a pixel was lit
before, and zero if none was; nothing else changes. -/
theorem execute_draw_eq_loops (hI : s.index.toNat ≤ 0xFFF) (x y : Register) (n : Fin 16) :
    let start := s.index.toNat
    let x0 := (s.register x).toNat % 64
    let y0 := (s.register y).toNat % 32
    let t := s.execute (drawWord x y n)
    ((∃ r < n.val, y0 + r < 32 ∧ 4095 ≤ start + r) →
        t = { s with fault := FaultCode.outOfRange })
      ∧ ((∀ r < n.val, y0 + r < 32 → start + r < 4095) →
        t.display = (Canvas.drawRows s.bytes start x0 y0 n.val { display := s.display }).display
        ∧ (t.register flagRegister = 0 ∨ t.register flagRegister = 1)
        ∧ (t.register flagRegister = 1 ↔
          ∃ r < n.val, ∃ b < 8, ∃ (hx : x0 + b < 64) (hy : y0 + r < 32),
            (s.bytes (start + r)).testBit (7 - b) = true
              ∧ s.display.get ⟨x0 + b, hx⟩ ⟨y0 + r, hy⟩ = true)
        ∧ t = { s with display := t.display }.setRegister flagRegister
          (t.register flagRegister)) := by
  intro start x0 y0 t
  have ht : t = s.exec (.draw x y n) := execute_drawWord
  constructor
  · intro hout
    rw [ht, exec_of_refusal ((refusal_draw_iff hI x y n).2 hout)]
    rfl
  · intro hin
    have hr : s.refusal (.draw x y n) = none := (refusal_draw_eq_none_iff_rows hI).2 hin
    set canvas := Canvas.drawRows s.bytes start x0 y0 n.val { display := s.display } with hcanvas
    have hdraw : t = { s with display := canvas.display }.setRegister flagRegister
        (if canvas.collision then 1 else 0) := ht.trans (draw_eq_drawRows hr)
    have hdisplay : t.display = canvas.display := by
      rw [hdraw]
      rfl
    have hflag : t.register flagRegister = if canvas.collision then 1 else 0 := by
      rw [hdraw, register_setRegister, if_pos rfl]
    refine ⟨hdisplay, ?_, ?_, ?_⟩
    · rw [hflag]
      cases canvas.collision with
      | true => exact Or.inr rfl
      | false => exact Or.inl rfl
    · -- the flag is the collision of the loops, which is read off the pixels
      rw [← Canvas.collision_drawRows_iff, ← hcanvas, hflag]
      cases canvas.collision with
      | true => simp
      | false => simp
    · rw [hflag, hdisplay]
      exact hdraw

/-- A state about to draw at the lower right corner of the screen, where one column is lit;
the flag register holds the anchor, and every byte of memory is a full row. -/
def atCorner (index : UInt16) : State :=
  let s : State :=
    { memory := Vector.replicate 4095 0xFF
      index
      display := Display.ofFn fun x _ => x.val = 62 }
  s.setRegister flagRegister 61

/-- Of a sprite of fifteen rows three land on the screen.  They may end with the last byte
of memory, and turn pixels of the lit column off; one byte further on the draw fails. -/
theorem execute_draw_eq_loops_atCorner :
    (atCorner 4092).index.toNat ≤ 0xFFF
      ∧ ((atCorner 4092).execute (drawWord 15 15 15)).register flagRegister = 1
      ∧ (atCorner 4093).index.toNat ≤ 0xFFF
      ∧ (atCorner 4093).execute (drawWord 15 15 15)
        = { atCorner 4093 with fault := FaultCode.outOfRange } := by
  have hin : (atCorner 4092).index.toNat ≤ 0xFFF := by decide
  have hout : (atCorner 4093).index.toNat ≤ 0xFFF := by decide
  obtain ⟨-, hdraw⟩ := execute_draw_eq_loops hin 15 15 15
  obtain ⟨hfault, -⟩ := execute_draw_eq_loops hout 15 15 15
  have hrows : ∀ r < 15, 29 + r < 32 → 4092 + r < 4095 := by omega
  have hbyte : (atCorner 4092).bytes 4092 = 255 := by
    rw [bytes, Memory.byteAt, atCorner, setRegister_memory, Vector.getElem?_replicate,
      if_pos (by decide)]
    rfl
  obtain ⟨-, -, hflag, -⟩ := hdraw hrows
  refine ⟨hin, hflag.2 ⟨0, by decide, 1, by decide, by decide, by decide, ?_, ?_⟩, hout, ?_⟩
  · show ((atCorner 4092).bytes 4092).testBit 6 = true
    rw [hbyte]
    decide
  · show (Display.ofFn fun i _ => decide (i.val = 62)).get ⟨61 + 1, _⟩ ⟨29 + 0, _⟩ = true
    rw [Display.get_ofFn]
    decide
  · exact hfault ⟨2, by decide, by decide, by decide⟩

end State

end Chip8
