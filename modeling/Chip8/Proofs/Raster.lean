/-
Drawing a sprite pixel by pixel.

`Canvas.drawRows` draws a sprite with two nested loops, over its rows and over
the bits of a row, and turns over one pixel at a time.  What falls off the screen
is skipped.  This is how a draw is described; the core computes the whole mask at
once instead.  The two agree:

* `Canvas.paint_paint` — painting one mask and then another with other pixels is
  painting both together;
* `Canvas.foldl_eq_paint` — so a loop that paints a mask in every pass paints
  them all together;
* `Canvas.drawRows_eq_paint` — the two loops paint the mask `Canvas.rowsMask`;
* `State.sprite_eq_rowsMask` — for a draw inside memory this is the mask of the
  sprite;
* `State.draw_eq_drawRows` — so the draw of the core is that of the two loops.

Design notes: the flag is carried through the loops, where it says that a pixel
was lit when it was turned over.  As no pixel is visited twice, that is the same
as having been lit at the start, which is what `paint_paint` comes down to.
-/
import Chip8.Proofs.Step

namespace Chip8

/-- A screen that is being drawn on, and whether a lit pixel has been turned
off. -/
structure Canvas where
  display : Display
  collision : Bool := false

namespace Canvas

/-- Turns one pixel over. -/
def turn (c : Canvas) (x : Column) (y : Row) : Canvas where
  display := Display.ofFn fun i j =>
    if i = x ∧ j = y then !c.display.get i j else c.display.get i j
  collision := c.collision || c.display.get x y

/-- Draws the bits of a byte along a row, the most significant bit leftmost.
Pixels past the right edge are skipped. -/
def drawBits (byte x0 : Nat) (y : Row) (c : Canvas) : Canvas :=
  (List.range 8).foldl (fun c b =>
    if h : x0 + b < 64 then
      if byte.testBit (7 - b) then c.turn ⟨x0 + b, h⟩ y else c
    else c) c

/-- Draws the rows of the sprite at an address, from top to bottom.  Rows past the
lower edge are skipped. -/
def drawRows (memory : Nat → Nat) (start x0 y0 rows : Nat) (c : Canvas) : Canvas :=
  (List.range rows).foldl (fun c r =>
    if h : y0 + r < 32 then c.drawBits (memory (start + r)) x0 ⟨y0 + r, h⟩ else c) c

/-! ### Painting masks -/

/-- Turns over all pixels of a mask at once. -/
def paint (c : Canvas) (mask : Display) : Canvas where
  display := c.display.flip mask
  collision := c.collision || c.display.overlaps mask

/-- The pixels of the first so many masks. -/
def union (masks : Nat → Display) (count : Nat) : Display :=
  Display.ofFn fun i j => (List.range count).any fun k => (masks k).get i j

theorem paint_of_dark {mask : Display} (h : ∀ x y, mask.get x y = false) (c : Canvas) :
    c.paint mask = c := by
  have hdark : mask = Display.blank := by
    ext x y
    rw [h, Display.get_blank]
  have hover : c.display.overlaps Display.blank = false := by
    rw [Bool.eq_false_iff, Ne, Display.overlaps_iff]
    simp
  subst hdark
  rw [paint, hover, Display.flip_blank, Bool.or_false]

theorem paint_paint {m k u : Display} (hmk : ∀ x y, m.get x y = true → k.get x y = false)
    (hu : ∀ x y, u.get x y = (m.get x y || k.get x y)) (c : Canvas) :
    (c.paint m).paint k = c.paint u := by
  have hdisplay : (c.display.flip m).flip k = c.display.flip u := by
    ext x y
    rw [Display.get_flip, Display.get_flip, Display.get_flip, hu]
    cases hm : m.get x y with
    | true => rw [hmk x y hm, Bool.xor_false, Bool.or_false]
    | false => rw [Bool.xor_false, Bool.false_or]
  have hover : (c.display.overlaps m || (c.display.flip m).overlaps k) = c.display.overlaps u := by
    rw [Bool.eq_iff_iff, Bool.or_eq_true]
    simp only [Display.overlaps_iff, Display.get_flip, hu, Bool.or_eq_true]
    constructor
    · rintro (⟨x, y, hd, hm⟩ | ⟨x, y, hd, hk⟩)
      · exact ⟨x, y, hd, Or.inl hm⟩
      · -- a pixel of `k` is none of `m`, so it is still as it was
        have hm : m.get x y = false := by
          by_contra hm
          rw [hmk x y (Bool.eq_true_of_not_eq_false hm)] at hk
          exact absurd hk (by decide)
        rw [hm, Bool.xor_false] at hd
        exact ⟨x, y, hd, Or.inr hk⟩
    · rintro ⟨x, y, hd, hm | hk⟩
      · exact Or.inl ⟨x, y, hd, hm⟩
      · cases hm : m.get x y with
        | true => exact Or.inl ⟨x, y, hd, hm⟩
        | false => exact Or.inr ⟨x, y, by rw [hd, hm]; rfl, hk⟩
  rw [paint, paint, paint, Bool.or_assoc, hdisplay, hover]

theorem get_union {masks : Nat → Display} {count : Nat} {i : Column} {j : Row} :
    (union masks count).get i j = true ↔ ∃ k < count, (masks k).get i j = true := by
  rw [union, Display.get_ofFn, List.any_eq_true]
  simp only [List.mem_range]

/-- A loop that paints a mask in every pass, and no pixel twice, paints all the
masks together. -/
theorem foldl_eq_paint {f : Canvas → Nat → Canvas} {masks : Nat → Display}
    (hf : ∀ c k, f c k = c.paint (masks k))
    (hmasks : ∀ k l, l < k → ∀ i j, (masks l).get i j = true → (masks k).get i j = false)
    (count : Nat) (c : Canvas) :
    (List.range count).foldl f c = c.paint (union masks count) := by
  induction count with
  | zero =>
    rw [paint_of_dark]
    · rfl
    · intro i j
      rw [union, Display.get_ofFn, List.range_zero, List.any_nil]
  | succ count ih =>
    rw [List.range_succ, List.foldl_append, ih, List.foldl_cons, List.foldl_nil, hf]
    apply paint_paint
    · -- what has been painted so far belongs to an earlier mask
      intro i j hlit
      obtain ⟨l, hl, hget⟩ := get_union.1 hlit
      exact hmasks count l hl i j hget
    · intro i j
      rw [union, union, Display.get_ofFn, Display.get_ofFn, List.range_succ, List.any_append,
        List.any_cons, List.any_nil, Bool.or_false]

/-! ### The two loops -/

/-- The mask of one bit of a byte along a row. -/
def bitMask (byte x0 : Nat) (y : Row) (b : Nat) : Display :=
  Display.ofFn fun i j => decide (j = y ∧ i.val = x0 + b) && byte.testBit (7 - b)

/-- Whether the bit of a byte at a column is set. -/
def bitAt (byte x0 i : Nat) : Bool :=
  decide (x0 ≤ i ∧ i < x0 + 8) && byte.testBit (7 - (i - x0))

/-- The mask of one row of the sprite at an address. -/
def rowMask (memory : Nat → Nat) (start x0 y0 r : Nat) : Display :=
  Display.ofFn fun i j => decide (j.val = y0 + r) && bitAt (memory (start + r)) x0 i.val

/-- The mask of the sprite at an address. -/
def rowsMask (memory : Nat → Nat) (start x0 y0 rows : Nat) : Display :=
  Display.ofFn fun i j =>
    decide (y0 ≤ j.val ∧ j.val < y0 + rows) && bitAt (memory (start + (j.val - y0))) x0 i.val

theorem turn_eq_paint {byte x0 b : Nat} (hx : x0 + b < 64) (hbit : byte.testBit (7 - b) = true)
    (y : Row) (c : Canvas) : c.turn ⟨x0 + b, hx⟩ y = c.paint (bitMask byte x0 y b) := by
  have hget (i : Column) (j : Row) :
      (bitMask byte x0 y b).get i j = decide (i = ⟨x0 + b, hx⟩ ∧ j = y) := by
    rw [bitMask, Display.get_ofFn, hbit, Bool.and_true, decide_eq_decide, and_comm]
    exact ⟨fun h => ⟨Fin.ext h.1, h.2⟩, fun h => ⟨congrArg Fin.val h.1, h.2⟩⟩
  have hdisplay : (c.turn ⟨x0 + b, hx⟩ y).display = c.display.flip (bitMask byte x0 y b) := by
    ext i j
    rw [turn, Display.get_ofFn, Display.get_flip, hget]
    by_cases hij : i = ⟨x0 + b, hx⟩ ∧ j = y
    · rw [if_pos hij, decide_eq_true hij, Bool.xor_true]
    · rw [if_neg hij, decide_eq_false hij, Bool.xor_false]
  have hover : c.display.get ⟨x0 + b, hx⟩ y = c.display.overlaps (bitMask byte x0 y b) := by
    rw [Bool.eq_iff_iff, Display.overlaps_iff]
    simp only [hget, decide_eq_true_eq]
    constructor
    · intro h
      exact ⟨_, _, h, rfl, rfl⟩
    · rintro ⟨_, _, h, rfl, rfl⟩
      exact h
  rw [paint, ← hdisplay, ← hover]
  rfl

theorem drawBits_eq_paint (byte x0 : Nat) (y : Row) (c : Canvas) :
    c.drawBits byte x0 y = c.paint (union (bitMask byte x0 y) 8) := by
  apply foldl_eq_paint
  · intro c b
    by_cases hx : x0 + b < 64
    · rw [dif_pos hx]
      by_cases hbit : byte.testBit (7 - b) = true
      · rw [if_pos hbit, turn_eq_paint hx hbit]
      · rw [if_neg hbit, paint_of_dark]
        intro i j
        rw [bitMask, Display.get_ofFn, Bool.eq_false_of_not_eq_true hbit, Bool.and_false]
    · -- the mask of a bit past the edge is dark: there is no such column
      rw [dif_neg hx, paint_of_dark]
      intro i j
      have hout : ¬ (j = y ∧ i.val = x0 + b) := fun h => hx (h.2 ▸ i.isLt)
      rw [bitMask, Display.get_ofFn, decide_eq_false hout, Bool.false_and]
  · intro k l hlt i j hlit
    rw [bitMask, Display.get_ofFn, Bool.and_eq_true, decide_eq_true_eq] at hlit
    have hout : ¬ (j = y ∧ i.val = x0 + k) := by omega
    rw [bitMask, Display.get_ofFn, decide_eq_false hout, Bool.false_and]

theorem get_union_bitMask (byte x0 : Nat) (y : Row) (i : Column) (j : Row) :
    (union (bitMask byte x0 y) 8).get i j = (decide (j = y) && bitAt byte x0 i.val) := by
  rw [Bool.eq_iff_iff, get_union]
  simp only [bitMask, bitAt, Display.get_ofFn, Bool.and_eq_true, decide_eq_true_eq]
  constructor
  · rintro ⟨b, hb, ⟨hj, hi⟩, hbit⟩
    rw [show b = i.val - x0 by omega] at hbit
    exact ⟨hj, by omega, hbit⟩
  · rintro ⟨hj, hi, hbit⟩
    exact ⟨i.val - x0, by omega, ⟨hj, by omega⟩, hbit⟩

/-- **The two loops paint the mask of the sprite.** -/
theorem drawRows_eq_paint (memory : Nat → Nat) (start x0 y0 rows : Nat) (c : Canvas) :
    c.drawRows memory start x0 y0 rows = c.paint (rowsMask memory start x0 y0 rows) := by
  have hunion : union (rowMask memory start x0 y0) rows = rowsMask memory start x0 y0 rows := by
    ext i j
    rw [Bool.eq_iff_iff, get_union]
    simp only [rowMask, rowsMask, Display.get_ofFn, Bool.and_eq_true, decide_eq_true_eq]
    constructor
    · rintro ⟨r, hr, hj, hbit⟩
      rw [show r = j.val - y0 by omega] at hbit
      exact ⟨by omega, hbit⟩
    · rintro ⟨hj, hbit⟩
      exact ⟨j.val - y0, by omega, by omega, hbit⟩
  rw [← hunion]
  apply foldl_eq_paint
  · intro c r
    by_cases hy : y0 + r < 32
    · have hrow : union (bitMask (memory (start + r)) x0 ⟨y0 + r, hy⟩) 8
          = rowMask memory start x0 y0 r := by
        ext i j
        rw [get_union_bitMask, rowMask, Display.get_ofFn, decide_eq_decide.2 Fin.ext_iff]
      rw [dif_pos hy, drawBits_eq_paint, hrow]
    · rw [dif_neg hy, paint_of_dark]
      intro i j
      have hout : ¬ j.val = y0 + r := fun h => hy (h ▸ j.isLt)
      rw [rowMask, Display.get_ofFn, decide_eq_false hout, Bool.false_and]
  · intro k l hlt i j hlit
    rw [rowMask, Display.get_ofFn, Bool.and_eq_true, decide_eq_true_eq] at hlit
    have hout : ¬ j.val = y0 + k := by omega
    rw [rowMask, Display.get_ofFn, decide_eq_false hout, Bool.false_and]

end Canvas

/-! ### The draw of the core -/

namespace Sprite

/-- Inside memory, the byte nearest to an address is the byte at it. -/
theorem nearestByte_of_lt (m : Memory) {a : Nat} (h : a < 4095) :
    nearestByte m.toArray a = m.byteAt a := by
  have hmin : min (a : Int).toNat (m.toArray.size - 1) = a := by
    rw [Int.toNat_natCast, Vector.size_toArray]
    omega
  rw [nearestByte, hmin, Memory.byteAt, Vector.getElem?_toArray]

/-- A pixel of a mask whose row lies in memory shows a bit of the byte of that
row. -/
theorem lit_eq_bitAt (m : Memory) {start x0 y0 n : Nat} (hn : n < 16) (i : Column) (j : Row)
    (hin : y0 ≤ j.val → j.val < y0 + n → start + (j.val - y0) < 4095) :
    lit m.toArray start x0 y0 n i j
      = (decide (y0 ≤ j.val ∧ j.val < y0 + n)
          && Canvas.bitAt (m.byteAt (start + (j.val - y0))).toNat x0 i.val) := by
  by_cases hrow : y0 ≤ j.val ∧ j.val < y0 + n
  · by_cases hcol : x0 ≤ i.val ∧ i.val < x0 + 8
    · -- with fewer than sixteen rows in memory the address neither wraps nor is clamped
      have haddr := hin hrow.1 hrow.2
      have hwrap : wrap32 ((start : Int) + min ((j.val : Int) - y0) lastSpriteRow)
          = (start + (j.val - y0) : Nat) := by
        rw [wrap32_of_fits (by unfold FitsSigned32 lastSpriteRow; omega), lastSpriteRow]
        omega
      have hbit : 7 - ((i.val : Int) - x0).toNat = 7 - (i.val - x0) := by omega
      simp only [lit, hwrap, nearestByte_of_lt m haddr, hbit, Canvas.bitAt, decide_eq_true hrow,
        decide_eq_true hcol, Bool.true_and]
      rw [decide_eq_true (by omega), decide_eq_true (by omega), decide_eq_true (by omega),
        decide_eq_true (by omega)]
      rfl
    · rw [lit_eq_false_of_column (by omega), Canvas.bitAt, decide_eq_false hcol, Bool.false_and,
        Bool.and_false]
  · rw [lit_eq_false_of_row (by omega), decide_eq_false hrow, Bool.false_and]

end Sprite

namespace State

/-- Memory as numbers. -/
def bytes (s : State) (a : Nat) : Nat := (s.memory.byteAt a).toNat

variable {s : State} {x y : Register} {n : Fin 16}

theorem sprite_eq_rowsMask (h : s.refusal (.draw x y n) = none) :
    s.sprite x y n = Canvas.rowsMask s.bytes s.index.toNat ((s.register x).toNat % 64)
      ((s.register y).toNat % 32) n.val := by
  have hin := refusal_draw_eq_none_iff.1 h
  simp only [visibleRows, screenHeight, memorySize] at hin
  ext i j
  simp only [sprite, screenWidth, screenHeight, Sprite.get_mask, Canvas.rowsMask, Display.get_ofFn]
  exact Sprite.lit_eq_bitAt s.memory n.isLt i j (by omega)

/-- **A draw inside memory is the two loops over the rows and bits of its
sprite.** -/
theorem draw_eq_drawRows (h : s.refusal (.draw x y n) = none) :
    s.draw x y n =
      let canvas := Canvas.drawRows s.bytes s.index.toNat ((s.register x).toNat % 64)
        ((s.register y).toNat % 32) n.val { display := s.display }
      { s with display := canvas.display }.setRegister flagRegister
        (if canvas.collision then 1 else 0) := by
  rw [draw_of_le (refusal_draw_eq_none_iff.1 h), Canvas.drawRows_eq_paint, sprite_eq_rowsMask h]
  simp only [Canvas.paint, Bool.false_or]

end State

end Chip8
