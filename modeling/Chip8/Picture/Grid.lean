/-
Rectangular grids of lit and dark cells.

A `Grid w h` has `w` columns of `h` cells; a display is one of 64 by 32.  Grids
may also come as nested lists of any shape, `Nested`, of which some are
rectangular and some are not.

* `Grid.get_ofFn`, `Grid.ext` — a grid is its cells;
* `Nested.shape?` — the sizes of a nested list, if they agree at every depth.
-/
import Chip8.Display

namespace Chip8

/-- A grid of columns from left to right, each from top to bottom. -/
structure Grid (w h : Nat) where
  columns : Vector (Vector Bool h) w
deriving DecidableEq

namespace Grid

variable {w h : Nat}

/-- Whether a cell is lit. -/
def get (g : Grid w h) (x : Fin w) (y : Fin h) : Bool :=
  g.columns[x][y]

/-- The grid with given cells. -/
def ofFn (f : Fin w → Fin h → Bool) : Grid w h :=
  ⟨Vector.ofFn fun x => Vector.ofFn (f x)⟩

/-- The pixels of a display. -/
def ofDisplay (d : Display) : Grid 64 32 := ⟨d.columns⟩

@[simp] theorem get_ofFn (f : Fin w → Fin h → Bool) (x : Fin w) (y : Fin h) :
    (ofFn f).get x y = f x y := by
  simp [get, ofFn]

@[ext] theorem ext {g k : Grid w h} (same : ∀ x y, g.get x y = k.get x y) : g = k := by
  obtain ⟨a⟩ := g
  obtain ⟨b⟩ := k
  congr
  ext i hi j hj
  exact same ⟨i, hi⟩ ⟨j, hj⟩

@[simp] theorem get_ofDisplay (d : Display) (x : Column) (y : Row) :
    (ofDisplay d).get x y = d.get x y := rfl

end Grid

/-- Cells in lists of lists, as deep as may be. -/
inductive Nested where
  | cell (lit : Bool)
  | list (items : List Nested)

namespace Nested

mutual

/-- The sizes of a nested list, the outermost first, if all lists at a depth
have the same size.  Nothing is known below an empty list. -/
def shape? : Nested → Option (List Nat)
  | .cell _ => some []
  | .list items => (common? items).map fun (size, shape) => size :: shape

/-- The number of items and the shape that they share. -/
def common? : List Nested → Option (Nat × List Nat)
  | [] => some (0, [])
  | item :: rest =>
    match item.shape?, rest, common? rest with
    | some shape, [], _ => some (1, shape)
    | some shape, _ :: _, some (size, shape') =>
      if shape = shape' then some (size + 1, shape) else none
    | _, _, _ => none

end

/-- The item at an index; a cell has none. -/
def item? : Nested → Nat → Option Nested
  | .cell _, _ => none
  | .list items, i => items[i]?

/-- Whether this is a lit cell. -/
def isLit : Nested → Bool
  | .cell lit => lit
  | .list _ => false

/-- The grid that a nested list of two dimensions stands for. -/
def toGrid (n : Nested) (w h : Nat) : Grid w h :=
  Grid.ofFn fun x y => (((n.item? x).bind (·.item? y)).map isLit).getD false

/-- A grid whose size is only known at run time. -/
structure Sized where
  width : Nat
  height : Nat
  grid : Grid width height

/-- Why a nested list is no grid. -/
inductive GridError where
  /-- Two lists at one depth differ in size. -/
  | ragged
  /-- There are fewer than two dimensions. -/
  | tooFlat
  /-- There are more than two dimensions. -/
  | tooDeep
deriving DecidableEq, Repr

/-- The grid that a nested list of exactly two dimensions stands for. -/
def grid? (n : Nested) : Except GridError Sized :=
  match n.shape? with
  | none => .error .ragged
  | some [w, h] => .ok ⟨w, h, n.toGrid w h⟩
  | some (_ :: _ :: _ :: _) => .error .tooDeep
  | some _ => .error .tooFlat

/-- The grid of the last two dimensions of a nested list.  The dimensions before
them have to be of size one, as far as there is anything to see: without cells
the grid is empty. -/
def innerGrid? (n : Nested) : List Nat → Except GridError Sized
  | [0] => .ok ⟨0, 0, Grid.ofFn fun _ _ => false⟩
  | [w, h] => .ok ⟨w, h, n.toGrid w h⟩
  | 1 :: rest@(_ :: _ :: _) => ((n.item? 0).getD n).innerGrid? rest
  | shape@(_ :: _ :: _ :: _) =>
    if shape.getLast? = some 0 then .ok ⟨0, 0, Grid.ofFn fun _ _ => false⟩
    else .error .tooDeep
  | _ => .error .tooFlat

/-- The number of dimensions that a nested list may have. -/
def depthLimit : Nat := 64

/-- The grid that a nested list shows when it is written as text. -/
def textGrid? (n : Nested) : Except GridError Sized :=
  match n.shape? with
  | none => .error .ragged
  | some shape => if depthLimit < shape.length then .error .tooDeep else n.innerGrid? shape

end Nested

end Chip8
