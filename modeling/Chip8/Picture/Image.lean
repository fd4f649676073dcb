/-
Grids as images in two colours, enlarged by a whole factor.

* `Image.get_enlarge` — a pixel of an enlarged image is the pixel of the image
  at the quotients of its coordinates;
* `Grid.get_image` — a pixel of the image of a grid has the colour of its cell;
* `Picture.wrap_of_lt` — sizes within range are what they are.

Design notes: an image is stored as rows from the top, as it is written to a
file, while a grid is stored as columns.  A factor of one or less leaves an
image as it is.  Sizes are 64-bit numbers that wrap around, so a scale may be too large
for them even where there are no pixels at all.  How much memory there is, and what it
takes to save a picture, is for the host to say.
-/
import Chip8.Picture.Grid
import Chip8.Picture.Color

namespace Chip8

/-- An image of rows from top to bottom, each from left to right. -/
structure Image (w h : Nat) where
  rows : Vector (Vector Color w) h
deriving DecidableEq

namespace Image

variable {w h : Nat}

/-- The pixel in a column and a row. -/
def get (image : Image w h) (x : Fin w) (y : Fin h) : Color :=
  (image.rows.get y).get x

/-- The factor that a scale stands for. -/
def factor (scale : Int) : Nat :=
  max scale.toNat 1

/-- The cell of a smaller row that a place in an enlarged row shows. -/
def shrink (n s : Nat) (i : Fin (n * s)) : Fin n :=
  ⟨i.val / s, Nat.div_lt_of_lt_mul (Nat.lt_of_lt_of_eq i.isLt (Nat.mul_comm n s))⟩

/-- An image with every pixel repeated along both axes. -/
def enlarge (image : Image w h) (s : Nat) : Image (w * s) (h * s) :=
  let wide : Vector (Vector Color (w * s)) h :=
    image.rows.map fun row => Vector.ofFn fun x => row[shrink w s x]
  ⟨Vector.ofFn fun y => wide[shrink h s y]⟩

@[ext] theorem ext {a b : Image w h} (same : ∀ x y, a.get x y = b.get x y) : a = b := by
  obtain ⟨a⟩ := a
  obtain ⟨b⟩ := b
  congr
  ext i hi j hj
  exact same ⟨j, hj⟩ ⟨i, hi⟩

@[simp] theorem get_enlarge (image : Image w h) (s : Nat) (x : Fin (w * s)) (y : Fin (h * s)) :
    (image.enlarge s).get x y = image.get (shrink w s x) (shrink h s y) := by
  change (image.enlarge s).rows[y][x] = image.rows[shrink h s y][shrink w s x]
  simp [enlarge]

end Image

namespace Grid

variable {w h : Nat}

/-- A grid as an image of the same size. -/
def image (g : Grid w h) (on off : Color) : Image w h :=
  ⟨Vector.ofFn fun y => Vector.ofFn fun x => if g.get x y then on else off⟩

@[simp] theorem get_image (g : Grid w h) (on off : Color) (x : Fin w) (y : Fin h) :
    (g.image on off).get x y = if g.get x y then on else off := by
  change (g.image on off).rows[y][x] = _
  simp [image]

/-- A grid as an image at a scale. -/
def toImage (g : Grid w h) (scale : Int) (on off : Color) :
    Image (w * Image.factor scale) (h * Image.factor scale) :=
  (g.image on off).enlarge (Image.factor scale)

end Grid

/-- An image whose size is only known at run time. -/
structure Picture where
  width : Nat
  height : Nat
  image : Image width height

namespace Picture

/-- Why there is no picture. -/
inductive Error where
  | grid (error : Nested.GridError)
  | color (error : ColorError)
  /-- There is no scheme of that name. -/
  | unknownScheme (name : String)
  /-- The scale is no 64-bit number. -/
  | scaleOutOfRange
  /-- A size is negative, or the number of bytes is no 64-bit number. -/
  | tooLarge
  /-- There is no room for the picture. -/
  | noMemory
  /-- A size has wrapped around, and pixels are written where the picture ends. -/
  | overrun
  /-- The picture would have no pixels, so no file can hold it. -/
  | noPixels
deriving DecidableEq, Repr

/-! ### Sizes -/

/-- What a host has room for. -/
structure Memory where
  /-- Whether there is room for an array of pixels of some height and width. -/
  holds : (height width : Nat) → Bool
  /-- Whether there is room to save a picture of some height and width. -/
  saves : (height width : Nat) → Bool

/-- Room for everything. -/
def Memory.unlimited : Memory where
  holds _ _ := true
  saves _ _ := true

/-- An integer as a signed 64-bit number. -/
def wrap (n : Int) : Int := n.bmod 0x10000000000000000

/-- Makes room for an array of pixels of three bytes each.  A size of zero does not
count for the number of bytes. -/
def allocate (memory : Memory) (height width : Int) : Except Error Unit :=
  let bytes := (if height = 0 then 1 else height) * (if width = 0 then 1 else width) * 3
  if height < 0 ∨ width < 0 ∨ 0x8000000000000000 ≤ bytes then .error .tooLarge
  else if memory.holds height.toNat width.toNat then .ok ()
  else .error .noMemory

/-- Makes room for the picture of a grid of some sizes and for its enlargements, first in
height and then in width, and gives the sizes in the end. -/
def newSizes (memory : Memory) (height width : Nat) (scale : Int) : Except Error (Nat × Nat) :=
  if scale ≤ 1 then .ok (height, width)
  else if 0x8000000000000000 ≤ scale then .error .scaleOutOfRange
  else do
    let hasCells := 0 < height && 0 < width
    let high := wrap (height * scale)
    allocate memory high width
    if hasCells && high ≠ height * scale then throw .overrun
    let wide := wrap (width * scale)
    allocate memory high wide
    if hasCells && wide ≠ width * scale then throw .overrun
    return (high.toNat, wide.toNat)

theorem wrap_of_lt {n : Int} (low : 0 ≤ n) (high : n < 0x8000000000000000) : wrap n = n := by
  unfold wrap
  rw [Int.bmod_eq_of_le] <;> omega

/-! ### Making pictures -/

/-- A grid as a picture. -/
def ofGrid (g : Nested.Sized) (scale : Int) (on off : Color) : Picture :=
  ⟨_, _, g.grid.toImage scale on off⟩

/-- A black picture. -/
def blank (height width : Nat) : Picture :=
  ⟨width, height, ⟨Vector.replicate height (Vector.replicate width .black)⟩⟩

/-- A grid as a picture of some sizes.  They are other sizes than those of the enlarged grid
only if they have wrapped around, and then there is no cell to be seen. -/
def ofGridAt (g : Nested.Sized) (scale : Int) (on off : Color) (sizes : Nat × Nat) : Picture :=
  if sizes = (g.height * Image.factor scale, g.width * Image.factor scale) then
    ofGrid g scale on off
  else blank sizes.1 sizes.2

/-- The picture of a grid in two colours.  Room is made for the grid itself first, then the
colour of lit cells is looked at before the other, and the scale at the end. -/
def ofSized? (memory : Memory) (g : Nested.Sized) (scale : Int) (on off : List Int) :
    Except Error Picture := do
  allocate memory g.height g.width
  let on ← (Color.ofComponents? on).mapError .color
  let off ← (Color.ofComponents? off).mapError .color
  let sizes ← newSizes memory g.height g.width scale
  return ofGridAt g scale on off sizes

/-- The picture of a nested list in two colours.  The list is looked at before
the colours. -/
def ofNested? (memory : Memory) (cells : Nested) (scale : Int) (on off : List Int) :
    Except Error Picture := do
  let g ← cells.grid?.mapError .grid
  ofSized? memory g scale on off

/-- The picture of a grid as it is saved, in the colours of a scheme. -/
def frameOf? (memory : Memory) (g : Nested.Sized) (scale : Int) (scheme : Scheme) :
    Except Error Picture := do
  let p ← ofSized? memory g scale scheme.on.components scheme.off.components
  if p.width = 0 ∨ p.height = 0 then throw .noPixels
  if !memory.saves p.height p.width then throw .noMemory
  return p

/-- The picture of a nested list as it is saved, in the colours of the scheme with a
name. -/
def frame? (memory : Memory) (cells : Nested) (scale : Int) (scheme : String) :
    Except Error Picture := do
  let some scheme := Scheme.ofName? scheme | throw (.unknownScheme scheme)
  let g ← cells.grid?.mapError .grid
  frameOf? memory g scale scheme

end Picture

end Chip8
