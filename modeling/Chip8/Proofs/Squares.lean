/-
Cells become squares.

The image of a grid shows every cell as a square of pixels of one colour, as large as the
scale.  A grid is stored as columns and an image as rows, so the two coordinates change
places on the way.

* `Picture.rows`, `Picture.pixel?` — what an image shows;
* `Picture.repeated` — rows with every pixel repeated along both axes;
* `Picture.rows_ofGrid` — the image of a grid is that of its cells, repeated, and
  `Picture.repeated_repeated` — repeating twice is repeating once, so many times more;
* `Picture.pixel?_ofGrid` — the colour of a pixel is that of the cell at the quotients of its
  coordinates;
* `Picture.InRange.of_mul` — the scales that do not let a size wrap around;
* `Picture.cells_become_squares` — all of this for a grid in two colours;
* `Picture.no_image_at_scale_too_large` — the exception: a scale that is no 64-bit number.

Design notes: a pixel is asked for by its row first.  A scale of one or less leaves the cells
as they are, which is why it counts as one.
-/
import Chip8.Proofs.Rectangle
import Chip8.Proofs.Sizes
import Mathlib.Data.List.Basic

namespace Chip8

namespace Picture

variable {w h : Nat}

/-! ### Rows and pixels -/

/-- The rows of an image from top to bottom, each from left to right. -/
def rows (p : Picture) : List (List Color) :=
  p.image.rows.toList.map Vector.toList

/-- The colour of the pixel in a row and a column, if there is one. -/
def pixel? (p : Picture) (row column : Nat) : Option Color :=
  p.rows[row]?.bind fun r => r[column]?

theorem pixel?_of_lt (p : Picture) {row column : Nat} (hrow : row < p.height)
    (hcolumn : column < p.width) :
    p.pixel? row column = some (p.image.get ⟨column, hcolumn⟩ ⟨row, hrow⟩) := by
  have hpixels : p.rows[row]? = some (p.image.rows[row].toList) := by
    rw [rows, List.getElem?_map, Vector.getElem?_toList, Vector.getElem?_eq_getElem hrow,
      Option.map_some]
  rw [pixel?, hpixels, Option.bind_some, Vector.getElem?_toList,
    Vector.getElem?_eq_getElem hcolumn]
  rfl

/-! ### Repeated pixels -/

/-- Rows with every pixel repeated so many times along both axes. -/
def repeated (s : Nat) (rows : List (List Color)) : List (List Color) :=
  (rows.map fun row => row.flatMap (List.replicate s)).flatMap (List.replicate s)

section Repeat

variable {α : Type}

theorem getElem?_flatMap_replicate {s : Nat} (hs : 0 < s) (l : List α) (i : Nat) :
    (l.flatMap (List.replicate s))[i]? = l[i / s]? := by
  induction l generalizing i with
  | nil => rfl
  | cons a l ih =>
    rw [List.flatMap_cons]
    by_cases hi : i < s
    · rw [List.getElem?_append_left (by rwa [List.length_replicate]), Nat.div_eq_of_lt hi,
        List.getElem?_replicate, if_pos hi, List.getElem?_cons_zero]
    · have hdiv : i / s = (i - s) / s + 1 := Nat.div_eq_sub_div hs (Nat.not_lt.1 hi)
      rw [List.getElem?_append_right (by rw [List.length_replicate]; omega),
        List.length_replicate, ih, hdiv, List.getElem?_cons_succ]

/-- What is stored of a row or a column when it is enlarged. -/
theorem toList_ofFn_shrink {n : Nat} (v : Vector α n) (s : Nat) :
    (Vector.ofFn fun i => v.get (Image.shrink n s i)).toList
      = v.toList.flatMap (List.replicate s) := by
  rw [Vector.toList_ofFn]
  rcases Nat.eq_zero_or_pos s with rfl | hs
  · -- there is nothing left of the row, and nothing is repeated
    simp
  · apply List.ext_getElem?
    intro i
    rw [getElem?_flatMap_replicate hs, List.getElem?_ofFn, Vector.getElem?_toList]
    by_cases hi : i < n * s
    · have hcell : i / s < n := (Nat.div_lt_iff_lt_mul hs).2 hi
      rw [dif_pos hi, Vector.getElem?_eq_getElem hcell]
      rfl
    · have hcell : ¬ i / s < n := fun hlt => hi ((Nat.div_lt_iff_lt_mul hs).1 hlt)
      rw [dif_neg hi, Vector.getElem?_eq_none (Nat.not_lt.1 hcell)]

theorem flatMap_replicate_twice (l : List α) (a b : Nat) :
    (l.flatMap (List.replicate a)).flatMap (List.replicate b)
      = l.flatMap (List.replicate (a * b)) := by
  rw [List.flatMap_assoc]
  apply List.flatMap_congr
  intro x _
  rw [List.flatMap_replicate, List.flatten_replicate_replicate]

end Repeat

theorem repeated_repeated (a b : Nat) (rows : List (List Color)) :
    repeated b (repeated a rows) = repeated (a * b) rows := by
  have hrow : (fun row : List Color => (row.flatMap (List.replicate a)).flatMap
      (List.replicate b)) = fun row => row.flatMap (List.replicate (a * b)) :=
    funext fun row => flatMap_replicate_twice row a b
  -- the pixels of a row are repeated before or after the row itself
  have hswap : (repeated a rows).map (fun row => row.flatMap (List.replicate b))
      = (rows.map fun row => row.flatMap (List.replicate (a * b))).flatMap
        (List.replicate a) := by
    rw [repeated, List.map_flatMap, List.flatMap_map, List.flatMap_map]
    apply List.flatMap_congr
    intro row _
    rw [List.map_replicate, flatMap_replicate_twice]
  rw [repeated, hswap, flatMap_replicate_twice, repeated]

theorem rows_enlarge (image : Image w h) (s : Nat) :
    rows ⟨_, _, image.enlarge s⟩ = repeated s (rows ⟨_, _, image⟩) := by
  -- the rows are widened first, and then each of them is repeated
  let wide : Vector (Vector Color (w * s)) h :=
    image.rows.map fun row => Vector.ofFn fun x => row[Image.shrink w s x]
  have hwide : wide.toList.map Vector.toList
      = (image.rows.toList.map Vector.toList).map fun row => row.flatMap (List.replicate s) := by
    rw [Vector.toList_map, List.map_map, List.map_map]
    apply List.map_congr_left
    intro row _
    exact toList_ofFn_shrink row s
  have hrows : (image.enlarge s).rows.toList = wide.toList.flatMap (List.replicate s) :=
    toList_ofFn_shrink wide s
  rw [rows, hrows, List.map_flatMap, repeated, rows, ← hwide, List.flatMap_map]
  apply List.flatMap_congr
  intro row _
  rw [List.map_replicate]

/-! ### The image of a grid -/

theorem factor_eq (scale : Int) : Image.factor scale = (max scale 1).toNat := by
  unfold Image.factor
  omega

theorem le_mul_scale {a b : Int} (ha : 1 ≤ a) (hb : 1 ≤ b) : a ≤ a * b := by
  have hmul := Int.mul_le_mul_of_nonneg_left hb (show 0 ≤ a by omega)
  rwa [Int.mul_one] at hmul

theorem factor_mul {a b : Int} (ha : 1 ≤ a) (hb : 1 ≤ b) :
    Image.factor (a * b) = Image.factor a * b.toNat := by
  have hfactor {n : Int} (hn : 1 ≤ n) : Image.factor n = n.toNat := by
    unfold Image.factor
    omega
  have hab : 1 ≤ a * b := Int.le_trans ha (le_mul_scale ha hb)
  rw [hfactor ha, hfactor hab, Int.toNat_mul (by omega) (by omega)]

theorem rows_ofGrid (g : Grid w h) (scale : Int) (on off : Color) :
    (ofGrid ⟨w, h, g⟩ scale on off).rows
      = repeated (Image.factor scale) (rows ⟨w, h, g.image on off⟩) :=
  rows_enlarge _ _

theorem pixel?_ofGrid (g : Grid w h) {scale : Int} (on off : Color) {x : Fin w} {y : Fin h}
    {row column : Nat} (hx : column / Image.factor scale = x) (hy : row / Image.factor scale = y) :
    (ofGrid ⟨w, h, g⟩ scale on off).pixel? row column
      = some (if g.get x y then on else off) := by
  have hcolumn : column < w * Image.factor scale := by
    rw [← Nat.div_lt_iff_lt_mul (factor_pos scale), hx]
    exact x.isLt
  have hrow : row < h * Image.factor scale := by
    rw [← Nat.div_lt_iff_lt_mul (factor_pos scale), hy]
    exact y.isLt
  have hcell : Image.shrink w (Image.factor scale) ⟨column, hcolumn⟩ = x := Fin.ext hx
  have hcell' : Image.shrink h (Image.factor scale) ⟨row, hrow⟩ = y := Fin.ext hy
  rw [pixel?_of_lt _ hrow hcolumn]
  show some (((g.image on off).enlarge (Image.factor scale)).get ⟨column, hcolumn⟩ ⟨row, hrow⟩)
    = _
  rw [Image.get_enlarge, hcell, hcell', Grid.get_image]

/-- A scale is in range if it is with one more factor. -/
theorem InRange.of_mul {a b : Int} (ha : 1 ≤ a) (hb : 1 ≤ b) (h' : InRange w h (a * b)) :
    InRange w h a := by
  have hle := le_mul_scale ha hb
  have hfactor : Image.factor a ≤ Image.factor (a * b) := by
    unfold Image.factor
    omega
  have hscale := h'.scale_lt
  exact ⟨by omega, Nat.lt_of_le_of_lt (Nat.mul_le_mul_left h hfactor) h'.height_lt,
    Nat.lt_of_le_of_lt (Nat.mul_le_mul_left w hfactor) h'.width_lt⟩

theorem ofNested?_ofGrid (hw : 0 < w) (memory : Memory) (g : Grid w h) (scale : Int)
    (on off : List Int) :
    ofNested? memory (Nested.ofGrid g) scale on off = ofSized? memory ⟨w, h, g⟩ scale on off := by
  rw [ofNested?, Nested.grid?_ofGrid hw]
  rfl

end Picture

/-- A grid in which lit cells are dark and dark cells are lit. -/
def Grid.inverse {w h : Nat} (g : Grid w h) : Grid w h :=
  ofFn fun x y => !g.get x y

theorem Grid.image_inverse {w h : Nat} (g : Grid w h) (on off : Color) :
    g.inverse.image on off = g.image off on := by
  ext x y
  rw [get_image, get_image, inverse, get_ofFn]
  cases g.get x y <;> rfl

namespace Picture

/-- **Cells become squares.**  There is an image of a grid in two colours exactly if its host has
room for it, and there is none at a scale beyond the 64-bit numbers; of a grid without cells this
is said as long as no size wraps around.  The image is as many times larger than the grid as the
scale says, at least once, and each pixel has the colour of the cell at the quotients of its
coordinates.  The image at a product
of scales is the image at the first, with every pixel repeated along both axes as often as the
second says; and to change the two colours for each other is to change lit and dark cells. -/
theorem cells_become_squares {w h : Nat} (g : Grid w h) (on off : Color) (memory : Memory) :
    let image (g : Grid w h) (scale : Int) (on off : Color) :=
      ofSized? memory ⟨w, h, g⟩ scale on.components off.components
    (∀ scale, 0 < w →
      ofNested? memory (Nested.ofGrid g) scale on.components off.components = image g scale on off)
    ∧ (∀ scale, (w = 0 ∨ h = 0 → InRange w h scale) →
      ((∃ p, image g scale on off = .ok p) ↔ memory.Fits w h scale))
    ∧ (∀ scale, 0x8000000000000000 ≤ scale → (∀ p, image g scale on off ≠ .ok p)
      ∧ (memory.Fits w h 1 → image g scale on off = .error .scaleOutOfRange))
    ∧ (∀ scale p, (w = 0 ∨ h = 0 → InRange w h scale) → image g scale on off = .ok p →
      let s := (max scale 1).toNat
      p.height = h * s ∧ p.width = w * s
        ∧ ∀ (x : Fin w) (y : Fin h) (row column : Nat), column / s = x → row / s = y →
          p.pixel? row column = some (if g.get x y then on else off))
    ∧ (∀ a b p q, 1 ≤ a → 1 ≤ b → (w = 0 ∨ h = 0 → InRange w h (a * b)) →
      image g (a * b) on off = .ok p → image g a on off = .ok q →
        p.height = q.height * b.toNat ∧ p.width = q.width * b.toNat
          ∧ p.rows = repeated b.toNat q.rows)
    ∧ ∀ scale, image g scale off on = image g.inverse scale on off := by
  intro image
  refine ⟨?_, ?_, ?_, ?_, ?_, ?_⟩
  · intro scale hw
    exact ofNested?_ofGrid hw memory g scale _ _
  · intro scale hrange
    constructor
    · rintro ⟨p, hp⟩
      exact ((ofSized?_eq_ok_iff hrange).1 hp).1
    · intro hfits
      exact ⟨_, (ofSized?_eq_ok_iff hrange).2 ⟨hfits, rfl⟩⟩
  · intro scale hscale
    exact ofSized?_of_le memory ⟨w, h, g⟩ hscale on off
  · intro scale p hrange hp
    obtain ⟨-, rfl⟩ := (ofSized?_eq_ok_iff hrange).1 hp
    intro s
    have hs : s = Image.factor scale := (factor_eq scale).symm
    rw [hs]
    refine ⟨rfl, rfl, ?_⟩
    intro x y row column hx hy
    exact pixel?_ofGrid g on off hx hy
  · -- the first scale is in range, too, so both images show the grid
    intro a b p q ha hb hrange hp hq
    obtain ⟨-, rfl⟩ := (ofSized?_eq_ok_iff hrange).1 hp
    obtain ⟨-, rfl⟩ := (ofSized?_eq_ok_iff fun hempty => (hrange hempty).of_mul ha hb).1 hq
    refine ⟨?_, ?_, ?_⟩
    · show h * Image.factor (a * b) = h * Image.factor a * b.toNat
      rw [factor_mul ha hb, Nat.mul_assoc]
    · show w * Image.factor (a * b) = w * Image.factor a * b.toNat
      rw [factor_mul ha hb, Nat.mul_assoc]
    · rw [rows_ofGrid, rows_ofGrid, repeated_repeated, factor_mul ha hb]
  · intro scale
    show ofSized? _ _ _ _ _ = ofSized? _ _ _ _ _
    rw [ofSized?_components, ofSized?_components]
    simp only [ofGridAt, ofGrid, Grid.toImage, Grid.image_inverse]

/-- A grid of three columns and two rows with two lit cells, in the corners. -/
def twoCorners : Grid 3 2 :=
  Grid.ofFn fun x y => x.val = 2 * y.val

/-- The image of two cells in the corners at scale 6, which is that at scale 2 with every
pixel repeated three times. -/
theorem cells_become_squares_twoCorners :
    Memory.unlimited.Fits 3 2 6 ∧ Memory.unlimited.Fits 3 2 2
      ∧ ∃ p q, ofNested? .unlimited (Nested.ofGrid twoCorners) 6 [255, 176, 0] [0, 0, 64] = .ok p
        ∧ ofSized? .unlimited ⟨3, 2, twoCorners⟩ 2 [255, 176, 0] [0, 0, 64] = .ok q
        ∧ p.height = 12 ∧ p.width = 18
        ∧ p.pixel? 6 17 = some ⟨255, 176, 0⟩
        ∧ p.pixel? 5 17 = some ⟨0, 0, 64⟩
        ∧ p.rows = repeated 3 q.rows := by
  have hcells {scale : Int} : 3 = 0 ∨ 2 = 0 → InRange 3 2 scale := by
    intro hempty
    exact absurd hempty (by decide)
  have hfits : Memory.unlimited.Fits 3 2 6 := Memory.fits_unlimited (by decide)
  have hfits' : Memory.unlimited.Fits 3 2 2 := Memory.fits_unlimited (by decide)
  obtain ⟨hnested, himage, -, hpixels, hproduct, -⟩ :=
    cells_become_squares twoCorners ⟨255, 176, 0⟩ ⟨0, 0, 64⟩ .unlimited
  obtain ⟨p, hp⟩ := (himage 6 hcells).2 hfits
  obtain ⟨q, hq⟩ := (himage 2 hcells).2 hfits'
  obtain ⟨hheight, hwidth, hpixel⟩ := hpixels 6 p hcells hp
  obtain ⟨-, -, hrows⟩ := hproduct 2 3 p q (by decide) (by decide) hcells hp hq
  refine ⟨hfits, hfits', p, q, (hnested 6 (by decide)).trans hp, hq, hheight, hwidth, ?_,
    ?_, hrows⟩
  · exact hpixel 2 1 6 17 rfl rfl
  · exact hpixel 2 0 5 17 rfl rfl

/-- A grid of one column without cells has no image at a scale that is no 64-bit number, not
even one without rows, however much room there is.  And at a scale for which its width wraps
around, a grid of four such columns has an image that is not as wide. -/
theorem no_image_at_scale_too_large :
    (ofNested? .unlimited (.list [.list []]) 0x8000000000000000 [0, 255, 0] [0, 0, 0]
        = .error .scaleOutOfRange
      ∧ ∀ memory, ¬ ∃ p,
        ofNested? memory (.list [.list []]) 0x8000000000000000 [0, 255, 0] [0, 0, 0] = .ok p
          ∧ p.height = 0 ∧ p.width = 0x8000000000000000)
      ∧ ∃ p, ofNested? .unlimited (.list [.list [], .list [], .list [], .list []])
          0x4000000000000000 [0, 255, 0] [0, 0, 0] = .ok p
        ∧ p.width = 0 ∧ p.width ≠ 4 * 0x4000000000000000 := by
  have himage (memory : Memory) :
      ofNested? memory (.list [.list []]) 0x8000000000000000 [0, 255, 0] [0, 0, 0]
        = ofSized? memory ⟨1, 0, Grid.ofFn fun _ _ => false⟩ 0x8000000000000000
          (Color.components ⟨0, 255, 0⟩) (Color.components ⟨0, 0, 0⟩) :=
    ofNested?_ofGrid (by decide) memory (Grid.ofFn fun _ _ => false : Grid 1 0) _ _ _
  have hrefused (memory : Memory) := ofSized?_of_le memory ⟨1, 0, Grid.ofFn fun _ _ => false⟩
    (Int.le_refl 0x8000000000000000) ⟨0, 255, 0⟩ ⟨0, 0, 0⟩
  have hwrapped : newSizes .unlimited 0 4 0x4000000000000000 = .ok (0, 0) := by decide
  refine ⟨⟨?_, fun memory => ?_⟩, blank 0 0, ?_, rfl, by decide⟩
  · rw [himage]
    exact (hrefused .unlimited).2 (Memory.fits_unlimited (by decide))
  · rintro ⟨p, hp, -⟩
    rw [himage] at hp
    exact (hrefused memory).1 p hp
  · have hwide : ofNested? .unlimited (.list [.list [], .list [], .list [], .list []])
        0x4000000000000000 [0, 255, 0] [0, 0, 0]
          = ofSized? .unlimited ⟨4, 0, Grid.ofFn fun _ _ => false⟩ 0x4000000000000000
            (Color.components ⟨0, 255, 0⟩) (Color.components ⟨0, 0, 0⟩) :=
      ofNested?_ofGrid (by decide) .unlimited (Grid.ofFn fun _ _ => false : Grid 4 0) _ _ _
    rw [hwide, ofSized?_components]
    dsimp only
    rw [hwrapped]
    rfl

end Picture

end Chip8
