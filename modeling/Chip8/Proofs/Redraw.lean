/-
Drawing a sprite twice erases it.

A draw turns over the pixels of a mask, and the mask depends on memory, on the address
register and on the two registers that hold the position.  If the flag is none of the
two, the second draw has the same mask as the first:

* `State.sprite_eq_of_same`, `State.refusal_draw_eq_of_same` — what a draw depends on;
* `State.Covers` — whether a set bit of a sprite falls on a pixel, and
  `State.get_sprite_iff`: the mask of a draw inside memory shows exactly these;
* `State.flag_draw_iff` — when a draw sets the flag;
* `State.execute_draw_twice` — the second draw restores all but the flag, which says
  whether the sprite covers a pixel that was dark.
-/
import Chip8.Proofs.Frame

namespace Chip8

theorem Display.overlaps_flip_iff (d mask : Display) :
    (d.flip mask).overlaps mask = true ↔ ∃ i j, mask.get i j = true ∧ d.get i j = false := by
  rw [overlaps_iff]
  constructor
  · rintro ⟨i, j, hflip, hmask⟩
    rw [get_flip, hmask, Bool.xor_true, Bool.not_eq_true'] at hflip
    exact ⟨i, j, hmask, hflip⟩
  · rintro ⟨i, j, hmask, hdark⟩
    refine ⟨i, j, ?_, hmask⟩
    rw [get_flip, hmask, hdark]
    rfl

namespace State

variable {s t : State} {x y : Register} {n : Fin 16}

/-! ### What a draw depends on -/

theorem sprite_eq_of_same (hmemory : Part.memory.Same s t) (hindex : Part.index.Same s t)
    (hx : (Part.register x).Same s t) (hy : (Part.register y).Same s t) :
    t.sprite x y n = s.sprite x y n := by
  rw [sprite, sprite, show t.memory = s.memory from hmemory, show t.index = s.index from hindex,
    show t.register x = s.register x from hx, show t.register y = s.register y from hy]

theorem refusal_draw_eq_of_same (hindex : Part.index.Same s t)
    (hy : (Part.register y).Same s t) : t.refusal (.draw x y n) = s.refusal (.draw x y n) := by
  rw [refusal, refusal, visibleRows, visibleRows, show t.index = s.index from hindex,
    show t.register y = s.register y from hy]

/-! ### What a draw shows -/

/-- Whether a set bit of a sprite falls on a pixel. -/
def Covers (s : State) (x y : Register) (n : Fin 16) (i : Column) (j : Row) : Prop :=
  ∃ r < n.val, ∃ b < 8, i.val = (s.register x).toNat % 64 + b
    ∧ j.val = (s.register y).toNat % 32 + r
    ∧ (s.bytes (s.index.toNat + r)).testBit (7 - b) = true

theorem get_sprite_iff (h : s.refusal (.draw x y n) = none) {i : Column} {j : Row} :
    (s.sprite x y n).get i j = true ↔ s.Covers x y n i j := by
  rw [sprite_eq_rowsMask h]
  exact Canvas.rowsMask_get_iff

theorem display_draw (h : s.refusal (.draw x y n) = none) :
    (s.exec (.draw x y n)).display = s.display.flip (s.sprite x y n) := by
  rw [exec, draw_of_le (refusal_draw_eq_none_iff.1 h)]
  rfl

theorem flag_draw (h : s.refusal (.draw x y n) = none) :
    (s.exec (.draw x y n)).register flagRegister
      = if s.display.overlaps (s.sprite x y n) then 1 else 0 := by
  rw [exec, draw_of_le (refusal_draw_eq_none_iff.1 h), register_setRegister, if_pos rfl]

theorem flag_draw_eq_zero_or_one (h : s.refusal (.draw x y n) = none) :
    (s.exec (.draw x y n)).register flagRegister = 0
      ∨ (s.exec (.draw x y n)).register flagRegister = 1 := by
  rw [flag_draw h]
  split
  · exact Or.inr rfl
  · exact Or.inl rfl

theorem flag_draw_iff (h : s.refusal (.draw x y n) = none) :
    (s.exec (.draw x y n)).register flagRegister = 1
      ↔ s.display.overlaps (s.sprite x y n) = true := by
  rw [flag_draw h]
  split
  · next hover => exact iff_of_true rfl hover
  · next hover => exact iff_of_false (by decide) hover

/-! ### Drawing twice -/

/-- **Drawing twice erases.**  If a sprite can be drawn, at a position that is not held in
the flag, drawing it twice changes nothing but the flag.  The first draw sets the flag if
the sprite covers a pixel that was lit, and the second if it covers one that was dark; so
one of them does if the sprite covers a pixel at all. -/
theorem execute_draw_twice (hx : x ≠ 0xF) (hy : y ≠ 0xF)
    (hin : s.index.toNat + min n.val (32 - (s.register y).toNat % 32) ≤ 4095) :
    let t := s.execute (drawWord x y n)
    let u := t.execute (drawWord x y n)
    s.SameBut [.register 0xF] u
      ∧ (t.register 0xF = 0 ∨ t.register 0xF = 1)
      ∧ (u.register 0xF = 0 ∨ u.register 0xF = 1)
      ∧ (t.register 0xF = 1 ↔ ∃ i j, s.Covers x y n i j ∧ s.display.get i j = true)
      ∧ (u.register 0xF = 1 ↔ ∃ i j, s.Covers x y n i j ∧ s.display.get i j = false)
      ∧ (t.register 0xF = 1 ∨ u.register 0xF = 1 ↔ ∃ i j, s.Covers x y n i j) := by
  intro t u
  have hr : s.refusal (.draw x y n) = none := refusal_draw_eq_none_iff.2 hin
  have ht : t = s.exec (.draw x y n) := execute_drawWord
  have hu : u = t.exec (.draw x y n) := execute_drawWord
  have hst : s.SameBut [.display, .register 0xF] t := ht ▸ exec_sameBut hr
  -- the first draw changes nothing that the second depends on
  have hsprite : t.sprite x y n = s.sprite x y n :=
    sprite_eq_of_same (hst _ (by simp)) (hst _ (by simp)) (hst _ (by simp [hx]))
      (hst _ (by simp [hy]))
  have hrt : t.refusal (.draw x y n) = none :=
    (refusal_draw_eq_of_same (hst _ (by simp)) (hst _ (by simp [hy]))).trans hr
  have htu : t.SameBut [.display, .register 0xF] u := hu ▸ exec_sameBut hrt
  have hdisplay : t.display = s.display.flip (s.sprite x y n) := by
    rw [ht, display_draw hr]
  have hback : u.display = s.display := by
    rw [hu, display_draw hrt, hsprite, hdisplay, Display.flip_flip]
  have hfirst : t.register 0xF = 1 ↔ ∃ i j, s.Covers x y n i j ∧ s.display.get i j = true := by
    rw [ht, flag_draw_iff hr, Display.overlaps_iff]
    simp only [get_sprite_iff hr, and_comm]
  have hsecond : u.register 0xF = 1 ↔ ∃ i j, s.Covers x y n i j ∧ s.display.get i j = false := by
    rw [hu, flag_draw_iff hrt, hsprite, hdisplay, Display.overlaps_flip_iff]
    simp only [get_sprite_iff hr]
  refine ⟨?_, ?_, ?_, hfirst, hsecond, ?_⟩
  · -- what neither draw writes to is the same, and the second restores the screen
    exact (hst.trans htu).of_cons hback
  · exact ht ▸ flag_draw_eq_zero_or_one hr
  · exact hu ▸ flag_draw_eq_zero_or_one hrt
  · rw [hfirst, hsecond]
    constructor
    · rintro (⟨i, j, hcovers, -⟩ | ⟨i, j, hcovers, -⟩)
      · exact ⟨i, j, hcovers⟩
      · exact ⟨i, j, hcovers⟩
    · rintro ⟨i, j, hcovers⟩
      cases hlit : s.display.get i j with
      | true => exact Or.inl ⟨i, j, hcovers, hlit⟩
      | false => exact Or.inr ⟨i, j, hcovers, hlit⟩

/-- A state with a dark screen and a full row in every byte of memory. -/
def fullRows : State where
  memory := Vector.replicate 4095 0xFF

/-- A row drawn in the corner of a dark screen turns no pixel off; drawn again, it does. -/
theorem execute_draw_twice_fullRows :
    (0 : Register) ≠ 0xF ∧ (1 : Register) ≠ 0xF
      ∧ fullRows.index.toNat + min 1 (32 - (fullRows.register 1).toNat % 32) ≤ 4095
      ∧ (fullRows.execute (drawWord 0 1 1)).register 0xF = 0
      ∧ ((fullRows.execute (drawWord 0 1 1)).execute (drawWord 0 1 1)).register 0xF = 1 := by
  have hx : (0 : Register) ≠ 0xF := by decide
  have hy : (1 : Register) ≠ 0xF := by decide
  have hin : fullRows.index.toNat + min 1 (32 - (fullRows.register 1).toNat % 32) ≤ 4095 := by
    decide
  have hdark : ∀ i j, fullRows.display.get i j = false := Display.get_blank
  have hbyte : fullRows.bytes 0 = 255 := by
    rw [bytes, Memory.byteAt, fullRows, Vector.getElem?_replicate, if_pos (by decide)]
    rfl
  have hcovers : fullRows.Covers 0 1 1 0 0 := by
    refine ⟨0, by decide, 0, by decide, by decide, by decide, ?_⟩
    show (fullRows.bytes 0).testBit 7 = true
    rw [hbyte]
    decide
  obtain ⟨-, hbit, -, hfirst, hsecond, -⟩ := execute_draw_twice (n := 1) hx hy hin
  refine ⟨hx, hy, hin, hbit.resolve_right fun hone => ?_, hsecond.2 ⟨0, 0, hcovers, hdark 0 0⟩⟩
  obtain ⟨i, j, -, hlit⟩ := hfirst.1 hone
  exact absurd hlit (by rw [hdark]; decide)

end State

end Chip8
