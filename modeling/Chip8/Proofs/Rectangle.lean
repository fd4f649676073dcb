/-
Grids as nested lists.

A nested list of columns that all have the same number of cells stands for a grid, and every
grid with a column at all comes from one, the list of its own columns:

* `Nested.common?_of_forall` — items of one shape have that shape in common;
* `Nested.shape?_ofGrid` — the list of the columns of a grid has the sizes of the grid;
* `Nested.grid?_ofGrid`, `Nested.textGrid?_ofGrid` — and it is read as the grid, for a
  picture and for a text.

Design notes: a grid without columns has no such list, as nothing would tell the height.
-/
import Chip8.Picture.Text

namespace Chip8.Nested

variable {w h : Nat}

/-- The cells of a column, from top to bottom. -/
def column (g : Grid w h) (x : Fin w) : Nested :=
  .list (List.ofFn fun y => .cell (g.get x y))

/-- The columns of a grid, from left to right. -/
def ofGrid (g : Grid w h) : Nested :=
  .list (List.ofFn (column g))

theorem common?_of_forall {items : List Nested} {shape : List Nat} (hne : items ≠ [])
    (h : ∀ item ∈ items, item.shape? = some shape) :
    common? items = some (items.length, shape) := by
  induction items with
  | nil => exact absurd rfl hne
  | cons item rest ih =>
    have hitem : item.shape? = some shape := h item List.mem_cons_self
    cases rest with
    | nil =>
      unfold common?
      rw [hitem]
      rfl
    | cons next rest =>
      have hrest := ih (List.cons_ne_nil next rest) fun i hi => h i (List.mem_cons_of_mem _ hi)
      unfold common?
      rw [hitem, hrest]
      exact if_pos rfl

theorem shape?_column (g : Grid w h) (x : Fin w) : (column g x).shape? = some [h] := by
  rw [column, shape?]
  cases h with
  | zero => rfl
  | succ n =>
    have hne : List.ofFn (fun y => Nested.cell (g.get x y)) ≠ [] := by simp
    have hcells : ∀ item ∈ List.ofFn (fun y => Nested.cell (g.get x y)),
        item.shape? = some [] := by
      intro item hitem
      obtain ⟨y, rfl⟩ := List.mem_ofFn.1 hitem
      rw [shape?]
    rw [common?_of_forall hne hcells, List.length_ofFn]
    rfl

theorem shape?_ofGrid (hw : 0 < w) (g : Grid w h) : (ofGrid g).shape? = some [w, h] := by
  have hne : List.ofFn (column g) ≠ [] := by
    rw [Ne, List.ofFn_eq_nil_iff]
    omega
  have hcolumns : ∀ item ∈ List.ofFn (column g), item.shape? = some [h] := by
    intro item hitem
    obtain ⟨x, rfl⟩ := List.mem_ofFn.1 hitem
    exact shape?_column g x
  rw [ofGrid, shape?, common?_of_forall hne hcolumns, List.length_ofFn]
  rfl

theorem toGrid_ofGrid (g : Grid w h) : (ofGrid g).toGrid w h = g := by
  ext x y
  simp [toGrid, ofGrid, column, item?, isLit]

theorem grid?_ofGrid (hw : 0 < w) (g : Grid w h) : (ofGrid g).grid? = .ok ⟨w, h, g⟩ := by
  rw [grid?, shape?_ofGrid hw]
  show Except.ok (⟨w, h, (ofGrid g).toGrid w h⟩ : Sized) = _
  rw [toGrid_ofGrid]

theorem textGrid?_ofGrid (hw : 0 < w) (g : Grid w h) :
    (ofGrid g).textGrid? = .ok ⟨w, h, g⟩ := by
  have hdepth : ¬ depthLimit < [w, h].length := by
    show ¬ 64 < 2
    decide
  rw [textGrid?, shape?_ofGrid hw]
  show (if depthLimit < [w, h].length then _ else (ofGrid g).innerGrid? [w, h]) = _
  rw [if_neg hdepth, innerGrid?, toGrid_ofGrid]

theorem text?_ofGrid (hw : 0 < w) (g : Grid w h) (on off : String) :
    (ofGrid g).text? on off = .ok (g.text on off) := by
  rw [text?, textGrid?_ofGrid hw]
  rfl

end Chip8.Nested
