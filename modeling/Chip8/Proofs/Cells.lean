/-
A rendered grid can be read back.

If lit and dark cells look different, take the same number of characters and hold no line
break, then the places of the cells in a text are known beforehand: each row is a line, and
the cells of a row stand in it at equal distances.

* `take_drop_flatten` — where a block stands among blocks of one length;
* `Grid.splitOn_text` — a text is split into its lines, and into nothing else;
* `Grid.cellOf_textLine` — the cells of a line;
* `Grid.ofText`, `Grid.ofText_text` — the grid that a text shows, and that this is the grid
  that was written;
* `Grid.text_is_decodable` — all of this for the text of a nested list.

Design notes: looks of the same length that differ cannot be empty, so that a cell always
takes a character.  A grid without rows would be written like a grid with one empty line,
which is why there has to be a row.
-/
import Chip8.Proofs.Lines
import Chip8.Proofs.Rectangle

namespace Chip8

/-! ### Blocks of one length -/

section Blocks

variable {α : Type} {blocks : List (List α)} {c : Nat}

theorem length_flatten_of_forall (h : ∀ block ∈ blocks, block.length = c) :
    blocks.flatten.length = blocks.length * c := by
  have hlengths : blocks.map List.length = List.replicate blocks.length c := by
    rw [← List.map_const']
    exact List.map_congr_left h
  rw [List.length_flatten, hlengths, List.sum_replicate_nat]

theorem take_drop_flatten (h : ∀ block ∈ blocks, block.length = c) {i : Nat}
    (hi : i < blocks.length) : (blocks.flatten.drop (i * c)).take c = blocks[i] := by
  induction blocks generalizing i with
  | nil => exact absurd hi (Nat.not_lt_zero i)
  | cons block rest ih =>
    have hblock : block.length = c := h block List.mem_cons_self
    rw [List.flatten_cons]
    cases i with
    | zero => rw [Nat.zero_mul, List.drop_zero, List.take_left' hblock, List.getElem_cons_zero]
    | succ i =>
      -- the first block takes as many places as are left out before it
      have hdrop : (block ++ rest.flatten).drop ((i + 1) * c) = rest.flatten.drop (i * c) := by
        rw [Nat.succ_mul, Nat.add_comm, ← List.drop_drop, List.drop_left' hblock]
      rw [hdrop, List.getElem_cons_succ]
      exact ih (fun b hb => h b (List.mem_cons_of_mem _ hb)) (Nat.lt_of_succ_lt_succ hi)

end Blocks

namespace Grid

variable {w h : Nat} {on off : String}

/-! ### The lines of a text -/

theorem getElem?_textLines (g : Grid w h) (y : Fin h) :
    (g.textLines on off)[y.val]? = some (g.textLine on off y) := by
  rw [textLines, List.getElem?_ofFn, dif_pos y.isLt]

theorem length_of_mem_cells (hlength : off.length = on.length) (g : Grid w h) (y : Fin h) :
    ∀ cell ∈ List.ofFn (fun x => (if g.get x y then on else off).toList),
      cell.length = on.length := by
  intro cell hcell
  obtain ⟨x, rfl⟩ := List.mem_ofFn.1 hcell
  rw [String.length_toList]
  split
  · rfl
  · exact hlength

theorem length_textLine (hlength : off.length = on.length) (g : Grid w h) (y : Fin h) :
    (g.textLine on off y).length = w * on.length := by
  rw [textLine, length_flatten_of_forall (length_of_mem_cells hlength g y), List.length_ofFn]

theorem newline_notMem_textLine (hon : Text.SingleLine on) (hoff : Text.SingleLine off)
    (g : Grid w h) (y : Fin h) : '\n' ∉ g.textLine on off y := by
  intro hmem
  obtain ⟨cell, hcell, hnewline⟩ := List.mem_flatten.1 hmem
  obtain ⟨x, rfl⟩ := List.mem_ofFn.1 hcell
  by_cases hlit : g.get x y = true
  · rw [if_pos hlit] at hnewline
    exact hon hnewline
  · rw [if_neg hlit] at hnewline
    exact hoff hnewline

/-- A text is split at its line breaks into the lines it was made of. -/
theorem splitOn_text (hh : 0 < h) (hon : Text.SingleLine on) (hoff : Text.SingleLine off)
    (g : Grid w h) : (g.text on off).toList.splitOn '\n' = g.textLines on off := by
  have hne : g.textLines on off ≠ [] := by
    apply List.ne_nil_of_length_pos
    rwa [length_textLines]
  rw [text_toList]
  refine List.splitOn_intercalate '\n' ?_ hne
  intro line hline
  obtain ⟨y, rfl⟩ := List.mem_ofFn.1 hline
  exact newline_notMem_textLine hon hoff g y

/-! ### The cells of a line -/

/-- The characters in the place of a cell, in a line of cells of `c` characters. -/
def cellOf (line : List Char) (c x : Nat) : List Char :=
  (line.drop (x * c)).take c

theorem cellOf_textLine (hlength : off.length = on.length) (g : Grid w h) (x : Fin w)
    (y : Fin h) :
    cellOf (g.textLine on off y) on.length x = (if g.get x y then on else off).toList := by
  have hx : x.val < (List.ofFn fun x => (if g.get x y then on else off).toList).length := by
    rw [List.length_ofFn]
    exact x.isLt
  rw [cellOf, textLine, take_drop_flatten (length_of_mem_cells hlength g y) hx,
    List.getElem_ofFn]

theorem cellOf_textLine_eq_iff (hne : on ≠ off) (hlength : off.length = on.length)
    (g : Grid w h) (x : Fin w) (y : Fin h) :
    cellOf (g.textLine on off y) on.length x = on.toList ↔ g.get x y = true := by
  rw [cellOf_textLine hlength, String.toList_inj]
  constructor
  · intro hcell
    by_contra hdark
    rw [if_neg hdark] at hcell
    exact hne hcell.symm
  · intro hlit
    rw [if_pos hlit]

/-! ### Reading a text -/

/-- The grid that a text shows, if lit cells look like `on` and all cells take the same
number of characters. -/
def ofText (w h : Nat) (on text : String) : Grid w h :=
  let lines := text.toList.splitOn '\n'
  ofFn fun x y => cellOf (lines[y.val]?.getD []) on.length x = on.toList

theorem ofText_text (hne : on ≠ off) (hlength : off.length = on.length)
    (hon : Text.SingleLine on) (hoff : Text.SingleLine off) (g : Grid w h) :
    ofText w h on (g.text on off) = g := by
  ext x y
  have hh : 0 < h := Nat.zero_lt_of_lt y.isLt
  rw [ofText, splitOn_text hh hon hoff, get_ofFn, getElem?_textLines, Option.getD_some,
    Bool.eq_iff_iff, decide_eq_true_iff]
  exact cellOf_textLine_eq_iff hne hlength g x y

/-- **A rendered grid can be read back.**  The text of the nested list of a grid, with looks
of one length for lit and dark cells, splits into a line for each row; each line has a place
of that length for each column, and there stands the look of the cell.  Read in this way the
text gives the grid back, so that no two grids of the same sizes have the same text. -/
theorem text_is_decodable (hw : 0 < w) (hh : 0 < h) (hne : on ≠ off)
    (hlength : off.length = on.length) (hon : Text.SingleLine on) (hoff : Text.SingleLine off) :
    (∀ g : Grid w h, ∃ text, (Nested.ofGrid g).text? on off = .ok text
      ∧ (let lines := text.toList.splitOn '\n'
        lines.length = h
        ∧ (∀ line ∈ lines, line.length = w * on.length)
        ∧ ∀ (x : Fin w) (y : Fin h), ∃ line, lines[y.val]? = some line
          ∧ (cellOf line on.length x = on.toList ↔ g.get x y = true)
          ∧ (cellOf line on.length x = off.toList ↔ g.get x y = false))
      ∧ ofText w h on text = g)
      ∧ ∀ g k : Grid w h,
        (Nested.ofGrid g).text? on off = (Nested.ofGrid k).text? on off → g = k := by
  refine ⟨?_, ?_⟩
  · intro g
    refine ⟨g.text on off, Nested.text?_ofGrid hw g on off, ?_,
      ofText_text hne hlength hon hoff g⟩
    intro lines
    have hlines : lines = g.textLines on off := splitOn_text hh hon hoff g
    rw [hlines]
    refine ⟨g.length_textLines on off, ?_, ?_⟩
    · intro line hline
      obtain ⟨y, rfl⟩ := List.mem_ofFn.1 hline
      exact length_textLine hlength g y
    · intro x y
      refine ⟨g.textLine on off y, g.getElem?_textLines y,
        cellOf_textLine_eq_iff hne hlength g x y, ?_⟩
      rw [cellOf_textLine hlength, String.toList_inj]
      cases g.get x y with
      | true => simp [hne]
      | false => simp
  · intro g k hsame
    rw [Nested.text?_ofGrid hw, Nested.text?_ofGrid hw, Except.ok.injEq] at hsame
    rw [← ofText_text hne hlength hon hoff g, hsame, ofText_text hne hlength hon hoff k]

/-- Two lit cells of a grid that is wider than high, in cells of two characters. -/
theorem text_is_decodable_twoCells :
    let g : Grid 3 2 := ofFn fun x y => x.val = 2 * y.val
    "##" ≠ ".."
      ∧ "..".length = "##".length
      ∧ Text.SingleLine "##"
      ∧ Text.SingleLine ".."
      ∧ (Nested.ofGrid g).text? "##" ".." = .ok "##....\n....##"
      ∧ ofText 3 2 "##" "##....\n....##" = g := by
  intro g
  have hne : "##" ≠ ".." := by decide
  have hlength : "..".length = "##".length := by decide
  have hon : Text.SingleLine "##" := by decide
  have hoff : Text.SingleLine ".." := by decide
  have hsome : 0 < 3 ∧ 0 < 2 := by decide
  obtain ⟨text, htext, -, hread⟩ :=
    (text_is_decodable hsome.1 hsome.2 hne hlength hon hoff).1 g
  have hliteral : text = "##....\n....##" := by
    rw [Nested.text?_ofGrid hsome.1, Except.ok.injEq] at htext
    rw [← htext]
    decide +kernel
  rw [hliteral] at htext hread
  exact ⟨hne, hlength, hon, hoff, htext, hread⟩

end Grid

end Chip8
