/-
Blank characters: what may surround a number, and is cut off there.

Blank are the space, the control characters from the tab to the carriage return,
and beyond ASCII the spaces and line breaks of all scripts.

* `isBlank_ascii` — in ASCII the blanks are the space and five control
  characters;
* `trim_of_not_blank` — a text without blanks stays as it is.
-/
namespace Chip8.Text

/-- The ranges of blank code points. -/
def blankRanges : List (Nat × Nat) := [
  (0x09, 0x0D), (0x20, 0x20), (0x85, 0x85), (0xA0, 0xA0), (0x1680, 0x1680),
  (0x2000, 0x200A), (0x2028, 0x2029), (0x202F, 0x202F), (0x205F, 0x205F), (0x3000, 0x3000)]

/-- Whether a character is blank. -/
def isBlank (c : Char) : Bool :=
  blankRanges.any fun (first, last) => first ≤ c.toNat && c.toNat ≤ last

/-- A text without the blanks at its ends. -/
def trim (cs : List Char) : List Char :=
  ((cs.dropWhile isBlank).reverse.dropWhile isBlank).reverse

theorem isBlank_ascii {c : Char} (h : c.toNat < 0x80) :
    isBlank c = ((0x09 ≤ c.toNat && c.toNat ≤ 0x0D) || c.toNat = 0x20) := by
  have key : ∀ n : Fin 0x80,
      (blankRanges.any fun (first, last) => first ≤ n.val && n.val ≤ last)
        = ((0x09 ≤ n.val && n.val ≤ 0x0D) || n.val = 0x20) := by
    decide +kernel
  exact key ⟨c.toNat, h⟩

theorem trim_of_not_blank {cs : List Char} (h : ∀ c ∈ cs, isBlank c = false) : trim cs = cs := by
  have keep : ∀ ds : List Char, (∀ c ∈ ds, isBlank c = false) → ds.dropWhile isBlank = ds := by
    intro ds hds
    cases ds with
    | nil => rfl
    | cons d r => simp [hds d (by simp)]
  rw [trim, keep cs h, keep cs.reverse (by simpa using h), List.reverse_reverse]

end Chip8.Text
