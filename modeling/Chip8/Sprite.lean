/-
Sprites as masks laid over the screen.

A sprite is eight pixels wide and has a byte for each row, the most significant
bit leftmost.  `Sprite.mask` projects the sprite at some index of memory, with
its top left corner at an anchor, onto the screen: columns past the right edge
and rows past the bottom are dropped, and nothing wraps around.

* `Sprite.get_mask` — the mask pixel by pixel;
* `Sprite.lit_eq_false_of_column`, `Sprite.lit_eq_false_of_row` — outside the
  eight columns and the given rows nothing is lit.

Design notes: the anchor may be anywhere, also off the screen, and so may the
index.  Addresses are sums of 32-bit integers, and an address outside memory
reads the nearest byte inside; rows below the sixteenth repeat the byte of the
sixteenth.  A draw of the machine never reaches these edges, but the projection
is defined for them.
-/
import Chip8.Display
import Chip8.Word

namespace Chip8

/-- Whether an integer is a signed 32-bit number. -/
def FitsSigned32 (n : Int) : Prop :=
  -0x80000000 ≤ n ∧ n ≤ 0x7FFFFFFF

instance (n : Int) : Decidable (FitsSigned32 n) := by
  unfold FitsSigned32; infer_instance

namespace Sprite

/-- The signed 32-bit number with the same low bits. -/
def wrap32 (n : Int) : Int :=
  Int.bmod n 0x100000000

theorem wrap32_of_fits {n : Int} (h : FitsSigned32 n) : wrap32 n = n := by
  obtain ⟨h₁, h₂⟩ := h
  unfold wrap32
  rw [Int.bmod_def]
  omega

/-- The byte of memory nearest to an address. -/
def nearestByte (memory : Array Byte) (address : Int) : Byte :=
  memory[min address.toNat (memory.size - 1)]?.getD 0

/-- Whether the mask of a sprite is lit at a pixel. -/
def lit (memory : Array Byte) (index anchorX anchorY height : Int)
    (x : Column) (y : Row) : Bool :=
  let column := (x.val : Int) - anchorX
  let row := (y.val : Int) - anchorY
  0 ≤ column && column < 8 && 0 ≤ row && row < height
    && (nearestByte memory (wrap32 (index + min row lastSpriteRow))).toNat.testBit
      (7 - column.toNat)

/-- The mask of a sprite. -/
def mask (memory : Array Byte) (index anchorX anchorY height : Int) : Display :=
  Display.ofFn (lit memory index anchorX anchorY height)

/-- Why a sprite has no mask. -/
inductive MaskError where
  /-- A coordinate, the height or the index is no 32-bit number. -/
  | overflow
  /-- There is no memory to read from. -/
  | noMemory
deriving DecidableEq, Repr

/-- The mask of a sprite, if its numbers are in range and there is memory. -/
def mask? (memory : Array Byte) (index anchorX anchorY height : Int) :
    Except MaskError Display :=
  if ¬ (FitsSigned32 index ∧ FitsSigned32 anchorX ∧ FitsSigned32 anchorY
      ∧ FitsSigned32 height) then
    .error .overflow
  else if memory.isEmpty then
    .error .noMemory
  else
    .ok (mask memory index anchorX anchorY height)

@[simp] theorem get_mask (memory : Array Byte) (index ax ay h : Int) (x : Column) (y : Row) :
    (mask memory index ax ay h).get x y = lit memory index ax ay h x y := by
  simp [mask]

theorem lit_eq_false_of_column {memory : Array Byte} {index ax ay h : Int}
    {x : Column} {y : Row} (hx : (x.val : Int) < ax ∨ ax + 8 ≤ x.val) :
    lit memory index ax ay h x y = false := by
  simp only [lit, Bool.and_eq_false_iff, decide_eq_false_iff_not]
  omega

theorem lit_eq_false_of_row {memory : Array Byte} {index ax ay h : Int}
    {x : Column} {y : Row} (hy : (y.val : Int) < ay ∨ ay + h ≤ y.val) :
    lit memory index ax ay h x y = false := by
  simp only [lit, Bool.and_eq_false_iff, decide_eq_false_iff_not]
  omega

end Sprite

end Chip8
