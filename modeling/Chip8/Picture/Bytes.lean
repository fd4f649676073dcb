/-
Numbers and pixels as bytes, as image files hold them.
-/
import Chip8.Picture.Image
import Chip8.Word

namespace Chip8

namespace Bytes

/-- The lowest bytes of a number, the lowest first. -/
def lowFirst : Nat → Nat → List Byte
  | 0, _ => []
  | k + 1, n => UInt8.ofNat n :: lowFirst k (n / 256)

/-- The lowest bytes of a number, the lowest last. -/
def highFirst (k n : Nat) : List Byte :=
  (lowFirst k n).reverse

/-- Bytes cut into pieces of `k + 1`, of which the last may be shorter. -/
def pieces (k : Nat) : List Byte → List (List Byte)
  | [] => []
  | b :: rest => (b :: rest.take k) :: pieces k (rest.drop k)
termination_by bytes => bytes.length
decreasing_by simp only [List.length_drop, List.length_cons]; omega

end Bytes

/-- A colour as bytes, red first. -/
def Color.bytes (c : Color) : List Byte :=
  [UInt8.ofNat c.red.val, UInt8.ofNat c.green.val, UInt8.ofNat c.blue.val]

end Chip8
