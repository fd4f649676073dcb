/-
Masks of sprites, row by row.

A sprite of at most sixteen rows can be cut between any two rows.  The lower part is read from as
many bytes further on, and placed as many rows further down, as the upper part is high.  The
masks of the two parts share no cell, and together they are the mask of the whole.  The sprite
may hang off the screen on any side, and its bytes may be read from beyond either end of memory:

* `Display.cells` — the lit cells of a display;
* `Sprite.Covers`, `Sprite.rowBit`, `Sprite.lit_iff` — a cell of a mask is lit if the sprite
  covers it and a bit of its row is set there;
* `Sprite.clippedLit`, `Sprite.lit_eq_clippedLit` — the byte and the bit may be looked up for
  every cell of the screen, also where the sprite does not cover it;
* `Sprite.covers_add`, `Sprite.rowBit_add` — the two parts of a sprite cover what the whole
  covers, and show the same bits there;
* `Sprite.card_cells_mask_le` — a mask has at most eight cells for each row;
* `Sprite.mask_splits_by_rows` — what follows for the masks that exist.

Design notes: an address is the sum of the index and a row, and only the sum wraps or is clipped.
So a row that is read from a later index has the same byte, wherever the index is.
-/
import Mathlib.Data.Fintype.Prod
import Mathlib.Data.Int.Interval
import Chip8.Sprite

namespace Chip8

/-- The lit cells of a display. -/
def Display.cells (d : Display) : Finset (Column × Row) :=
  Finset.univ.filter fun c => d.get c.1 c.2 = true

theorem Display.mem_cells {d : Display} {c : Column × Row} :
    c ∈ d.cells ↔ d.get c.1 c.2 = true := by
  rw [cells, Finset.mem_filter, and_iff_right (Finset.mem_univ c)]

namespace Sprite

variable {memory : Array Byte} {index ax ay h h₁ h₂ : Int} {c : Column × Row}

/-! ### Cells and bits -/

/-- Whether a sprite of some height, with its upper left corner at an anchor, covers a cell. -/
def Covers (ax ay h : Int) (c : Column × Row) : Prop :=
  (ax ≤ c.1.val ∧ c.1.val ≤ ax + 7) ∧ ay ≤ c.2.val ∧ c.2.val ≤ ay + h - 1

/-- Whether a bit of a row is set, counted from the left, in a sprite that is read from an
index. -/
def rowBit (memory : Array Byte) (index row column : Int) : Bool :=
  (nearestByte memory (wrap32 (index + row))).toNat.testBit (7 - column).toNat

theorem lit_iff :
    lit memory index ax ay h c.1 c.2 = true ↔
      Covers ax ay h c
        ∧ rowBit memory index (min (c.2.val - ay) lastSpriteRow) (c.1.val - ax) = true := by
  rw [lit, rowBit]
  simp only [Bool.and_eq_true, decide_eq_true_eq]
  have hcovers : (((0 ≤ (c.1.val : Int) - ax ∧ (c.1.val : Int) - ax < 8)
      ∧ 0 ≤ (c.2.val : Int) - ay) ∧ (c.2.val : Int) - ay < h) ↔ Covers ax ay h c := by
    rw [Covers]
    omega
  rw [hcovers]
  refine and_congr_right fun hin => ?_
  obtain ⟨⟨hleft, hright⟩, -⟩ := hin
  have hbit : 7 - ((c.1.val : Int) - ax).toNat = (7 - ((c.1.val : Int) - ax)).toNat := by omega
  rw [hbit]

/-! ### Clipped look-ups -/

/-- Whether a cell is lit, computed alike for every cell of the screen: its distances from the
anchor wrap, row and column are clipped to those of a sprite before byte and bit are looked up,
and what the sprite does not cover is dropped in the end. -/
def clippedLit (memory : Array Byte) (index ax ay h : Int) (x : Column) (y : Row) : Bool :=
  let column := wrap32 (x.val - ax)
  let row := wrap32 (y.val - ay)
  let byte := nearestByte memory (wrap32 (index + max 0 (min row lastSpriteRow)))
  byte.toNat.testBit (7 - max 0 (min column 7)).toNat
    && decide (0 ≤ column ∧ column < 8 ∧ 0 ≤ row ∧ row < h)

/-- The distance from an anchor wraps at one end only, and is negative then. -/
theorem wrap32_distance {a : Int} (ha : FitsSigned32 a) {i : Nat} (hi : i < 64) :
    wrap32 (i - a) = i - a ∨ (wrap32 (i - a) < 0 ∧ 0x7FFFFFFF < i - a) := by
  obtain ⟨hlow, hhigh⟩ := ha
  rw [wrap32, Int.bmod_def]
  omega

theorem clippedLit_iff (hx : FitsSigned32 ax) (hy : FitsSigned32 ay) (hh : FitsSigned32 h) :
    clippedLit memory index ax ay h c.1 c.2 = true ↔
      Covers ax ay h c
        ∧ rowBit memory index (min (c.2.val - ay) lastSpriteRow) (c.1.val - ax) = true := by
  have hcolumn := wrap32_distance hx c.1.isLt
  have hrow := wrap32_distance hy (Nat.lt_trans c.2.isLt (by decide : 32 < 64))
  have hheight : h ≤ 0x7FFFFFFF := hh.2
  rw [clippedLit, Bool.and_eq_true, decide_eq_true_eq, and_comm]
  have hcovers : (0 ≤ wrap32 (c.1.val - ax) ∧ wrap32 (c.1.val - ax) < 8
      ∧ 0 ≤ wrap32 (c.2.val - ay) ∧ wrap32 (c.2.val - ay) < h) ↔ Covers ax ay h c := by
    rw [Covers]
    omega
  rw [hcovers]
  refine and_congr_right fun hin => ?_
  -- on a covered cell no distance wraps, and no clip but that of a seventeenth row matters
  obtain ⟨⟨hleft, hright⟩, htop, hbottom⟩ := hin
  have hcol : max 0 (min (wrap32 (c.1.val - ax)) 7) = c.1.val - ax := by omega
  have hclip : max 0 (min (wrap32 (c.2.val - ay)) lastSpriteRow)
      = min (c.2.val - ay) lastSpriteRow := by omega
  rw [hcol, hclip, rowBit]

theorem lit_eq_clippedLit (memory : Array Byte) (index : Int) (hx : FitsSigned32 ax)
    (hy : FitsSigned32 ay) (hh : FitsSigned32 h) (c : Column × Row) :
    lit memory index ax ay h c.1 c.2 = clippedLit memory index ax ay h c.1 c.2 := by
  rw [Bool.eq_iff_iff, lit_iff, clippedLit_iff hx hy hh]

/-! ### Two parts of a sprite -/

/-- The two parts of a sprite cover what the whole covers. -/
theorem covers_add (hpos₁ : 0 ≤ h₁) (hpos₂ : 0 ≤ h₂) :
    Covers ax ay (h₁ + h₂) c ↔ Covers ax ay h₁ c ∨ Covers ax (ay + h₁) h₂ c := by
  rw [Covers, Covers, Covers]
  omega

/-- No cell is covered by both parts. -/
theorem not_covers_both (hupper : Covers ax ay h₁ c) : ¬ Covers ax (ay + h₁) h₂ c := by
  rw [Covers] at hupper ⊢
  omega

/-- A row that is read from a later index has the same bits. -/
theorem rowBit_add (memory : Array Byte) (index row column : Int) :
    rowBit memory (index + h) (row - h) column = rowBit memory index row column := by
  rw [rowBit, rowBit, show index + h + (row - h) = index + row by omega]

/-! ### Masks as sets of cells -/

/-- The cells of the mask of a sprite that has no more than sixteen rows. -/
theorem mem_cells_mask (hh : h ≤ 16) :
    c ∈ (mask memory index ax ay h).cells ↔
      Covers ax ay h c ∧ rowBit memory index (c.2.val - ay) (c.1.val - ax) = true := by
  rw [Display.mem_cells, get_mask, lit_iff]
  refine and_congr_right fun hin => ?_
  obtain ⟨-, htop, hbottom⟩ := hin
  have hrow : min ((c.2.val : Int) - ay) lastSpriteRow = c.2.val - ay := by
    rw [lastSpriteRow]
    omega
  rw [hrow]

theorem cells_mask_add (hpos₁ : 0 ≤ h₁) (hpos₂ : 0 ≤ h₂) (hsum : h₁ + h₂ ≤ 16) :
    (mask memory index ax ay (h₁ + h₂)).cells
      = (mask memory index ax ay h₁).cells
        ∪ (mask memory (index + h₁) ax (ay + h₁) h₂).cells := by
  ext c
  -- the lower part counts its rows from an anchor of its own
  have hrow : (c.2.val : Int) - (ay + h₁) = c.2.val - ay - h₁ := by omega
  rw [Finset.mem_union, mem_cells_mask hsum, mem_cells_mask (by omega), mem_cells_mask (by omega),
    hrow, rowBit_add, covers_add hpos₁ hpos₂, or_and_right]

theorem disjoint_cells_mask (hh₁ : h₁ ≤ 16) (hh₂ : h₂ ≤ 16) (k : Int) :
    Disjoint (mask memory index ax ay h₁).cells (mask memory k ax (ay + h₁) h₂).cells := by
  rw [Finset.disjoint_left]
  intro c
  rw [mem_cells_mask hh₁, mem_cells_mask hh₂]
  rintro ⟨hupper, -⟩ ⟨hlower, -⟩
  exact not_covers_both hupper hlower

/-- A mask has at most eight cells for each row. -/
theorem card_cells_mask_le (memory : Array Byte) (index ax ay : Int) (hpos : 0 ≤ h) :
    ((mask memory index ax ay h).cells.card : Int) ≤ 8 * h := by
  -- the cells are points of a rectangle of integers, which need not be on the screen
  have hcard : (mask memory index ax ay h).cells.card
      ≤ (Finset.Ico ax (ax + 8) ×ˢ Finset.Ico ay (ay + h)).card := by
    refine Finset.card_le_card_of_injOn (fun c => (c.1.val, c.2.val)) ?_ ?_
    · intro c
      rw [Finset.mem_coe, Finset.mem_coe, Display.mem_cells, get_mask, lit_iff, Covers,
        Finset.mem_product, Finset.mem_Ico, Finset.mem_Ico]
      rintro ⟨hin, -⟩
      dsimp only
      omega
    · intro c _ d _ hcd
      rw [Prod.mk.injEq] at hcd
      exact Prod.ext (Fin.ext (by omega)) (Fin.ext (by omega))
  have hsize : (Finset.Ico ax (ax + 8) ×ˢ Finset.Ico ay (ay + h)).card = 8 * h.toNat := by
    rw [Finset.card_product, Int.card_Ico, Int.card_Ico, add_sub_cancel_left,
      add_sub_cancel_left]
    rfl
  omega

/-! ### The masks that exist -/

theorem mask?_of_fits (hmemory : memory ≠ #[]) (hindex : FitsSigned32 index)
    (hx : FitsSigned32 ax) (hy : FitsSigned32 ay) (hh : FitsSigned32 h) :
    mask? memory index ax ay h = .ok (mask memory index ax ay h) := by
  have hfits : FitsSigned32 index ∧ FitsSigned32 ax ∧ FitsSigned32 ay ∧ FitsSigned32 h :=
    ⟨hindex, hx, hy, hh⟩
  have hnot : ¬ memory.isEmpty = true := fun hempty => hmemory (Array.isEmpty_iff.1 hempty)
  rw [mask?, if_neg (not_not_intro hfits), if_neg hnot]

theorem fits_height (hpos : 0 ≤ h) (hh : h ≤ 16) : FitsSigned32 h := by
  unfold FitsSigned32
  omega

/-- **Masks split by rows.**  A sprite of at most sixteen rows may be read from any index of a
memory that is not empty, with its anchor anywhere.  Its mask is the disjoint union of those of
its upper and its lower part, if index and anchor of the lower part are 32-bit numbers as well.
The cells of a mask are the set bits of the rows of its sprite, as far as they are on the screen.
So there are at most eight for each row, and none beside, above or below the sprite. -/
theorem mask_splits_by_rows (hmemory : memory ≠ #[]) (hindex : FitsSigned32 index)
    (hx : FitsSigned32 ax) (hy : FitsSigned32 ay) :
    (∀ h₁ h₂ : Int, 0 ≤ h₁ → 0 ≤ h₂ → h₁ + h₂ ≤ 16 →
        FitsSigned32 (index + h₁) → FitsSigned32 (ay + h₁) →
        ∃ whole upper lower,
          mask? memory index ax ay (h₁ + h₂) = .ok whole
            ∧ mask? memory index ax ay h₁ = .ok upper
            ∧ mask? memory (index + h₁) ax (ay + h₁) h₂ = .ok lower
            ∧ whole.cells = upper.cells ∪ lower.cells
            ∧ Disjoint upper.cells lower.cells)
      ∧ ∀ h : Int, 0 ≤ h → h ≤ 16 →
        ∃ m, mask? memory index ax ay h = .ok m
          ∧ (∀ c : Column × Row, m.get c.1 c.2 = clippedLit memory index ax ay h c.1 c.2)
          ∧ (∀ c : Column × Row, c ∈ m.cells ↔ ((ax ≤ c.1.val ∧ c.1.val ≤ ax + 7)
              ∧ ay ≤ c.2.val ∧ c.2.val ≤ ay + h - 1)
            ∧ rowBit memory index (c.2.val - ay) (c.1.val - ax) = true)
          ∧ (m.cells.card : Int) ≤ 8 * h := by
  constructor
  · intro h₁ h₂ hpos₁ hpos₂ hsum hindex' hy'
    have hwhole : FitsSigned32 (h₁ + h₂) := fits_height (by omega) hsum
    have hupper : FitsSigned32 h₁ := fits_height hpos₁ (by omega)
    have hlower : FitsSigned32 h₂ := fits_height hpos₂ (by omega)
    exact ⟨_, _, _, mask?_of_fits hmemory hindex hx hy hwhole,
      mask?_of_fits hmemory hindex hx hy hupper, mask?_of_fits hmemory hindex' hx hy' hlower,
      cells_mask_add hpos₁ hpos₂ hsum, disjoint_cells_mask (by omega) (by omega) _⟩
  · intro h hpos hh
    have hfits : FitsSigned32 h := fits_height hpos hh
    refine ⟨_, mask?_of_fits hmemory hindex hx hy hfits, fun c => ?_, fun c => mem_cells_mask hh,
      card_cells_mask_le memory index ax ay hpos⟩
    rw [get_mask, lit_eq_clippedLit memory index hx hy hfits]

/-- A sprite that hangs off the upper left corner of the screen and is read from before the start
of memory: its first row is not on the screen, and its second shows the last two bits that are
set in the first byte. -/
theorem mask_splits_by_rows_offScreen :
    (#[0xF0, 0x0F] : Array Byte) ≠ #[] ∧ FitsSigned32 (-1) ∧ FitsSigned32 (-2)
      ∧ FitsSigned32 (-1 + 1) ∧ (0 : Int) ≤ 1 ∧ (0 : Int) ≤ 15 ∧ (1 + 15 : Int) ≤ 16
      ∧ ∃ whole upper lower,
        mask? #[0xF0, 0x0F] (-1) (-2) (-1) (1 + 15) = .ok whole
          ∧ mask? #[0xF0, 0x0F] (-1) (-2) (-1) 1 = .ok upper
          ∧ mask? #[0xF0, 0x0F] (-1 + 1) (-2) (-1 + 1) 15 = .ok lower
          ∧ whole.cells = upper.cells ∪ lower.cells
          ∧ Disjoint upper.cells lower.cells
          ∧ (1, 0) ∈ whole.cells ∧ (2, 0) ∉ whole.cells := by
  have hmemory : (#[0xF0, 0x0F] : Array Byte) ≠ #[] := by decide
  have hindex : FitsSigned32 (-1) := by decide
  have hx : FitsSigned32 (-2) := by decide
  have hlower : FitsSigned32 (-1 + 1) := by decide
  obtain ⟨hsplit, hcells⟩ := mask_splits_by_rows hmemory hindex hx hindex
  obtain ⟨whole, upper, lower, hwhole, hupper, hlow, hunion, hdisjoint⟩ :=
    hsplit 1 15 (by decide) (by decide) (by decide) hlower hlower
  obtain ⟨m, hm, -, hmem, -⟩ := hcells (1 + 15) (by decide) (by decide)
  obtain rfl : whole = m := Except.ok.inj (hwhole.symm.trans hm)
  refine ⟨hmemory, hindex, hx, hlower, by decide, by decide, by decide,
    whole, upper, lower, hwhole, hupper, hlow, hunion, hdisjoint, ?_, ?_⟩
  · rw [hmem]
    decide
  · rw [hmem]
    decide

end Sprite

end Chip8
