/-
For which images there is room.

Before a grid is enlarged its new sizes are computed as 64-bit numbers, which may wrap around,
and room is made for the image.  As long as the sizes do not wrap, all that can be in the way is
the number of bytes, and the memory of the host:

* `Picture.byteCount` — the bytes of an image;
* `Picture.InRange` — that scale and sizes are 64-bit numbers;
* `Picture.Memory.Fits` — that there is room for all that is made on the way to an image;
* `Picture.newSizes_eq_ok_iff`, `Picture.inRange_of_newSizes` — which sizes an image has;
* `Picture.ofSized?_eq_ok_iff` — there is an image exactly if there is room for it.

Design notes: nothing is assumed of the memory of a host, not even that a smaller image fits if
a larger one does.  A size of zero does not count for the bytes, so even an image without pixels
may be too large.  Where there are cells, sizes that wrap around are never those of an image, and
only where there are none they have to be excluded.
-/
import Chip8.Picture.Image

namespace Chip8.Picture

variable {memory : Memory} {w h : Nat} {scale : Int}

/-- The bytes of an image, three for each pixel.  A size of zero does not count. -/
def byteCount (height width : Nat) : Nat :=
  max height 1 * max width 1 * 3

/-- That the scale of an image and its sizes are signed 64-bit numbers. -/
structure InRange (w h : Nat) (scale : Int) : Prop where
  scale_lt : scale < 0x8000000000000000
  height_lt : h * Image.factor scale < 0x8000000000000000
  width_lt : w * Image.factor scale < 0x8000000000000000

/-- That there is room for the image of a grid at a scale: for the image of the grid itself, for
the one that is enlarged in height, and for the one that is enlarged in both. -/
structure Memory.Fits (memory : Memory) (w h : Nat) (scale : Int) : Prop where
  bytes : byteCount (h * Image.factor scale) (w * Image.factor scale) < 0x8000000000000000
  cells : memory.holds h w = true
  high : memory.holds (h * Image.factor scale) w = true
  full : memory.holds (h * Image.factor scale) (w * Image.factor scale) = true

theorem Memory.fits_unlimited
    (hbytes : byteCount (h * Image.factor scale) (w * Image.factor scale) < 0x8000000000000000) :
    Memory.unlimited.Fits w h scale :=
  ⟨hbytes, rfl, rfl, rfl⟩

theorem factor_pos (scale : Int) : 0 < Image.factor scale :=
  Nat.lt_of_lt_of_le Nat.zero_lt_one (Nat.le_max_right _ _)

theorem factor_of_le_one (hscale : scale ≤ 1) : Image.factor scale = 1 := by
  unfold Image.factor
  omega

theorem factor_of_one_le (hscale : 1 ≤ scale) : (Image.factor scale : Int) = scale := by
  unfold Image.factor
  omega

/-! ### Counting bytes -/

theorem byteCount_mono {height height' width width' : Nat} (hheight : height ≤ height')
    (hwidth : width ≤ width') : byteCount height width ≤ byteCount height' width' := by
  have hmax : max height 1 ≤ max height' 1 := by omega
  have hmax' : max width 1 ≤ max width' 1 := by omega
  exact Nat.mul_le_mul_right 3 (Nat.mul_le_mul hmax hmax')

theorem le_byteCount (height width : Nat) :
    height ≤ byteCount height width ∧ width ≤ byteCount height width := by
  have hheight := Nat.le_mul_of_pos_right (max height 1) (Nat.le_max_right width 1)
  have hwidth := Nat.le_mul_of_pos_left (max width 1) (Nat.le_max_right height 1)
  unfold byteCount
  omega

/-- Where there are cells, all is in range if the bytes can be counted. -/
theorem InRange.of_byteCount (hh : 0 < h)
    (hbytes : byteCount (h * Image.factor scale) (w * Image.factor scale) < 0x8000000000000000) :
    InRange w h scale := by
  obtain ⟨hheight, hwidth⟩ := le_byteCount (h * Image.factor scale) (w * Image.factor scale)
  have hrows : Image.factor scale ≤ h * Image.factor scale := Nat.le_mul_of_pos_left _ hh
  have hscale : scale ≤ Image.factor scale := by
    unfold Image.factor
    omega
  exact ⟨by omega, by omega, by omega⟩

/-- There is room for sizes that have not wrapped around, if their bytes can be counted and the
host has them. -/
theorem allocate_eq_ok_iff {height width : Nat} :
    allocate memory height width = .ok () ↔
      byteCount height width < 0x8000000000000000 ∧ memory.holds height width = true := by
  have hsize (n : Nat) : (if (n : Int) = 0 then 1 else (n : Int)) = ((max n 1 : Nat) : Int) := by
    split <;> omega
  have hbytes : (if (height : Int) = 0 then 1 else (height : Int))
      * (if (width : Int) = 0 then 1 else (width : Int)) * 3 = (byteCount height width : Int) := by
    rw [hsize, hsize, byteCount, Int.natCast_mul, Int.natCast_mul]
    rfl
  unfold allocate
  dsimp only
  rw [hbytes, Int.toNat_natCast, Int.toNat_natCast]
  by_cases hcount : byteCount height width < 0x8000000000000000
  · rw [if_neg (by omega)]
    cases memory.holds height width <;> simp [hcount]
  · rw [if_pos (by omega)]
    simp [hcount]

/-! ### New sizes -/

theorem bind_eq_ok_iff {α β ε : Type} {x : Except ε α} {f : α → Except ε β} {b : β} :
    (x >>= f) = .ok b ↔ ∃ a, x = .ok a ∧ f a = .ok b := by
  cases x <;> simp [bind, Except.bind]

/-- A size that does not wrap around. -/
theorem wrap_mul_scale {n : Nat} (hscale : 1 ≤ scale)
    (hn : n * Image.factor scale < 0x8000000000000000) :
    n * scale = (n * Image.factor scale : Nat)
      ∧ wrap (n * scale) = (n * Image.factor scale : Nat) := by
  have htrue : n * scale = (n * Image.factor scale : Nat) := by
    rw [Int.natCast_mul, factor_of_one_le hscale]
  refine ⟨htrue, ?_⟩
  rw [htrue]
  exact wrap_of_lt (by omega) (by omega)

/-- The new sizes are the true ones if they are in range. -/
theorem newSizes_eq_ok_iff (hrange : InRange w h scale) {sizes : Nat × Nat} :
    newSizes memory h w scale = .ok sizes ↔
      sizes = (h * Image.factor scale, w * Image.factor scale)
        ∧ (1 < scale → allocate memory (h * Image.factor scale : Nat) w = .ok ()
          ∧ allocate memory (h * Image.factor scale : Nat) (w * Image.factor scale : Nat)
            = .ok ()) := by
  by_cases hsmall : scale ≤ 1
  · rw [newSizes, if_pos hsmall, factor_of_le_one hsmall, Nat.mul_one, Nat.mul_one]
    simp [Int.not_lt.2 hsmall, eq_comm]
  · have hlarge : 1 < scale := Int.not_le.1 hsmall
    obtain ⟨hheight, hhigh⟩ := wrap_mul_scale (by omega) hrange.height_lt
    obtain ⟨hwidth, hwide⟩ := wrap_mul_scale (by omega) hrange.width_lt
    rw [newSizes, if_neg hsmall, if_neg (Int.not_le.2 hrange.scale_lt)]
    dsimp only
    rw [hhigh, hwide, hheight, hwidth]
    -- no size has wrapped around, so room is all that is asked for
    simp only [ne_eq, not_true_eq_false, decide_false, Bool.and_false, Bool.false_eq_true,
      if_false, bind_eq_ok_iff, pure, Except.pure, Except.ok.injEq, Int.toNat_natCast]
    constructor
    · rintro ⟨⟨⟩, hfirst, ⟨⟩, hsecond, rfl⟩
      exact ⟨rfl, fun _ => ⟨hfirst, hsecond⟩⟩
    · rintro ⟨rfl, hroom⟩
      obtain ⟨hfirst, hsecond⟩ := hroom hlarge
      exact ⟨(), hfirst, (), hsecond, rfl⟩

theorem newSizes_of_le (hscale : 0x8000000000000000 ≤ scale) :
    newSizes memory h w scale = .error .scaleOutOfRange := by
  rw [newSizes, if_neg (by omega), if_pos hscale]

/-- Where there are cells, new sizes have not wrapped around. -/
theorem inRange_of_newSizes_of_cells (hw : 0 < w) (hh : 0 < h) (hscale : 1 < scale)
    {sizes : Nat × Nat} (hsizes : newSizes memory h w scale = .ok sizes) :
    InRange w h scale := by
  have hcells : (decide (0 < h) && decide (0 < w)) = true := by simp [hw, hh]
  have hsize {n : Nat} (hn : ¬ decide (wrap (n * scale) ≠ n * scale) = true) :
      n * Image.factor scale < 0x8000000000000000 := by
    have hwrap : wrap (n * scale) = n * scale := by simpa using hn
    have hlt : wrap (n * scale) < 0x8000000000000000 := Int.bmod_lt (by decide)
    rw [hwrap, ← factor_of_one_le (by omega : 1 ≤ scale)] at hlt
    omega
  rw [newSizes, if_neg (by omega)] at hsizes
  split at hsizes
  · exact absurd hsizes (by simp)
  · next hlt =>
    dsimp only at hsizes
    rw [hcells, Bool.true_and, Bool.true_and, bind_eq_ok_iff] at hsizes
    obtain ⟨-, -, hsizes⟩ := hsizes
    split at hsizes
    · nomatch hsizes
    · next hhigh =>
      rw [bind_eq_ok_iff] at hsizes
      obtain ⟨-, -, hsizes⟩ := hsizes
      split at hsizes
      · nomatch hsizes
      · next hwide => exact ⟨Int.not_le.1 hlt, hsize hhigh, hsize hwide⟩

theorem inRange_of_newSizes (hrange : w = 0 ∨ h = 0 → InRange w h scale)
    (hcells : allocate memory h w = .ok ()) {sizes : Nat × Nat}
    (hsizes : newSizes memory h w scale = .ok sizes) : InRange w h scale := by
  by_cases hempty : w = 0 ∨ h = 0
  · exact hrange hempty
  · by_cases hsmall : scale ≤ 1
    · refine InRange.of_byteCount (by omega) ?_
      rw [factor_of_le_one hsmall, Nat.mul_one, Nat.mul_one]
      exact (allocate_eq_ok_iff.1 hcells).1
    · exact inRange_of_newSizes_of_cells (by omega) (by omega) (by omega) hsizes

/-- There is room for the image of a grid exactly if there is for each step towards it. -/
theorem Memory.fits_iff :
    memory.Fits w h scale ↔
      allocate memory h w = .ok ()
        ∧ (1 < scale → allocate memory (h * Image.factor scale : Nat) w = .ok ()
          ∧ allocate memory (h * Image.factor scale : Nat) (w * Image.factor scale : Nat)
            = .ok ()) := by
  rw [allocate_eq_ok_iff, allocate_eq_ok_iff, allocate_eq_ok_iff]
  constructor
  · rintro ⟨hbytes, hcells, hhigh, hfull⟩
    -- the images on the way have no more bytes than the one in the end
    have hheight := Nat.le_mul_of_pos_right h (factor_pos scale)
    have hwidth := Nat.le_mul_of_pos_right w (factor_pos scale)
    have hcells' := byteCount_mono hheight hwidth
    have hhigh' := byteCount_mono (Nat.le_refl (h * Image.factor scale)) hwidth
    exact ⟨⟨by omega, hcells⟩, fun _ => ⟨⟨by omega, hhigh⟩, hbytes, hfull⟩⟩
  · rintro ⟨⟨hbytes, hcells⟩, hsteps⟩
    by_cases hsmall : scale ≤ 1
    · have hone := factor_of_le_one hsmall
      constructor <;> simpa only [hone, Nat.mul_one]
    · obtain ⟨⟨-, hhigh⟩, hbytes', hfull⟩ := hsteps (Int.not_le.1 hsmall)
      exact ⟨hbytes', hcells, hhigh, hfull⟩

/-! ### Images -/

theorem ofSized?_components (memory : Memory) (g : Nested.Sized) (scale : Int) (on off : Color) :
    ofSized? memory g scale on.components off.components = do
      allocate memory g.height g.width
      let sizes ← newSizes memory g.height g.width scale
      return ofGridAt g scale on off sizes := by
  rw [ofSized?, Color.ofComponents?_components, Color.ofComponents?_components]
  rfl

/-- **There is an image exactly if there is room for it**, unless it has no pixels and its sizes
wrap around. -/
theorem ofSized?_eq_ok_iff {g : Nested.Sized}
    (hrange : g.width = 0 ∨ g.height = 0 → InRange g.width g.height scale) {on off : Color}
    {p : Picture} :
    ofSized? memory g scale on.components off.components = .ok p
      ↔ memory.Fits g.width g.height scale ∧ p = ofGrid g scale on off := by
  have hplain : ofGridAt g scale on off
      (g.height * Image.factor scale, g.width * Image.factor scale) = ofGrid g scale on off :=
    if_pos rfl
  rw [ofSized?_components, bind_eq_ok_iff]
  constructor
  · rintro ⟨⟨⟩, hcells, hp⟩
    obtain ⟨sizes, hsizes, hp⟩ := bind_eq_ok_iff.1 hp
    have hr := inRange_of_newSizes hrange hcells hsizes
    obtain ⟨rfl, hroom⟩ := (newSizes_eq_ok_iff hr).1 hsizes
    exact ⟨Memory.fits_iff.2 ⟨hcells, hroom⟩, (Except.ok.inj hp).symm.trans hplain⟩
  · rintro ⟨hfits, rfl⟩
    obtain ⟨hcells, hroom⟩ := Memory.fits_iff.1 hfits
    refine ⟨(), hcells, bind_eq_ok_iff.2 ⟨_, (newSizes_eq_ok_iff ?_).2 ⟨rfl, hroom⟩, ?_⟩⟩
    · by_cases hempty : g.width = 0 ∨ g.height = 0
      · exact hrange hempty
      · exact InRange.of_byteCount (by omega) hfits.bytes
    · exact congrArg Except.ok hplain

/-- A scale that is no 64-bit number is refused, if there is room for the grid itself. -/
theorem ofSized?_of_le (memory : Memory) (g : Nested.Sized) (hscale : 0x8000000000000000 ≤ scale)
    (on off : Color) :
    (∀ p, ofSized? memory g scale on.components off.components ≠ .ok p)
      ∧ (memory.Fits g.width g.height 1 →
        ofSized? memory g scale on.components off.components = .error .scaleOutOfRange) := by
  rw [ofSized?_components, newSizes_of_le hscale]
  refine ⟨fun p hp => ?_, fun hfits => ?_⟩
  · obtain ⟨-, -, hsizes⟩ := bind_eq_ok_iff.1 hp
    nomatch hsizes
  · rw [(Memory.fits_iff.1 hfits).1]
    rfl

end Chip8.Picture
