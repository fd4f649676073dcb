/-
Grids written as text, one line for each row.

* `text_toList` — the text is its lines joined by line breaks;
* `length_textLines`, `textLines_getElem` — there is a line for each row, and it
  shows the cells of that row from left to right;
* `Nested.text?` — a nested list as text, if it is a grid.
-/
import Chip8.Picture.Grid

namespace Chip8

/-- What a lit cell looks like. -/
def litCell : String := "█"

/-- What a dark cell looks like. -/
def darkCell : String := " "

namespace Grid

variable {w h : Nat}

/-- The characters of a row. -/
def textLine (g : Grid w h) (on off : String) (y : Fin h) : List Char :=
  (List.ofFn fun x => (if g.get x y then on else off).toList).flatten

/-- The lines of a grid, from top to bottom. -/
def textLines (g : Grid w h) (on off : String) : List (List Char) :=
  List.ofFn (g.textLine on off)

/-- A grid as text. -/
def text (g : Grid w h) (on off : String) : String :=
  String.ofList (['\n'].intercalate (g.textLines on off))

@[simp] theorem text_toList (g : Grid w h) (on off : String) :
    (g.text on off).toList = ['\n'].intercalate (g.textLines on off) := by
  simp [text]

@[simp] theorem length_textLines (g : Grid w h) (on off : String) :
    (g.textLines on off).length = h := by
  simp [textLines]

@[simp] theorem textLines_getElem (g : Grid w h) (on off : String) (y : Nat)
    (hy : y < (g.textLines on off).length) :
    (g.textLines on off)[y] = g.textLine on off ⟨y, by simpa using hy⟩ := by
  simp [textLines]

end Grid

/-- A nested list as text. -/
def Nested.text? (n : Nested) (on off : String) : Except Nested.GridError String := do
  let g ← n.textGrid?
  return g.grid.text on off

/-- The screen as text, as it is printed. -/
def Display.render (d : Display) : String :=
  (Grid.ofDisplay d).text litCell darkCell

end Chip8
