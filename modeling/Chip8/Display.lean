/-
The screen: 64 columns of 32 pixels, each lit or dark.

A display is stored as columns, and everything about it is said through one
view, `Display.get`, which asks for the pixel at a column and a row.

* `Display.ext` — two displays with the same pixels are equal;
* `Display.get_ofFn` — a display can be given pixel by pixel;
* `Display.any_iff`, `Display.overlaps_iff` — some pixel is lit, and some pixel
  is lit in both of two displays;
* `Display.flip_flip`, `Display.flip_comm`, `Display.flip_assoc` — flipping the
  pixels of a mask is its own inverse, and the order of masks is irrelevant.
-/
import Chip8.Layout

namespace Chip8

/-- A column of the screen, from the left. -/
abbrev Column := Fin 64

/-- A row of the screen, from the top. -/
abbrev Row := Fin 32

/-- The pixels of a screen, or of a mask laid over it. -/
structure Display where
  /-- The columns from left to right, each from top to bottom. -/
  columns : Vector (Vector Bool 32) 64
deriving DecidableEq

namespace Display

/-- Whether the pixel in a column and a row is lit. -/
def get (d : Display) (x : Column) (y : Row) : Bool :=
  d.columns[x][y]

/-- The display with given pixels. -/
def ofFn (f : Column → Row → Bool) : Display :=
  ⟨Vector.ofFn fun x => Vector.ofFn (f x)⟩

/-- The dark display. -/
def blank : Display := ofFn fun _ _ => false

/-- A display with the pixels of a mask turned over. -/
def flip (d mask : Display) : Display :=
  ofFn fun x y => d.get x y ^^ mask.get x y

/-- Whether some pixel is lit. -/
def any (d : Display) : Bool :=
  d.columns.any fun column => column.any id

/-- Whether some pixel is lit in both displays. -/
def overlaps (d mask : Display) : Bool :=
  (ofFn fun x y => d.get x y && mask.get x y).any

/-! ### The view -/

@[simp] theorem get_ofFn (f : Column → Row → Bool) (x : Column) (y : Row) :
    (ofFn f).get x y = f x y := by
  simp [get, ofFn]

@[ext] theorem ext {d e : Display} (h : ∀ x y, d.get x y = e.get x y) : d = e := by
  obtain ⟨a⟩ := d
  obtain ⟨b⟩ := e
  congr
  ext i hi j hj
  exact h ⟨i, hi⟩ ⟨j, hj⟩

@[simp] theorem ofFn_get (d : Display) : ofFn d.get = d := by
  ext x y; simp

@[simp] theorem get_blank (x : Column) (y : Row) : blank.get x y = false := by
  simp [blank]

@[simp] theorem get_flip (d mask : Display) (x : Column) (y : Row) :
    (d.flip mask).get x y = (d.get x y ^^ mask.get x y) := by
  simp [flip]

theorem any_iff (d : Display) : d.any = true ↔ ∃ x y, d.get x y = true := by
  simp only [any, Vector.any_eq_true, id]
  constructor
  · rintro ⟨i, hi, j, hj, h⟩
    exact ⟨⟨i, hi⟩, ⟨j, hj⟩, h⟩
  · rintro ⟨x, y, h⟩
    exact ⟨x, x.isLt, y, y.isLt, h⟩

theorem overlaps_iff (d mask : Display) :
    d.overlaps mask = true ↔ ∃ x y, d.get x y = true ∧ mask.get x y = true := by
  simp [overlaps, any_iff]

/-! ### Flipping -/

@[simp] theorem flip_blank (d : Display) : d.flip blank = d := by
  ext x y; simp

@[simp] theorem flip_flip (d mask : Display) : (d.flip mask).flip mask = d := by
  ext x y; simp

theorem flip_comm (d m k : Display) : (d.flip m).flip k = (d.flip k).flip m := by
  ext x y
  simp only [get_flip]
  cases d.get x y <;> cases m.get x y <;> cases k.get x y <;> rfl

theorem flip_assoc (d m k : Display) : (d.flip m).flip k = d.flip (m.flip k) := by
  ext x y; simp

end Display

end Chip8
