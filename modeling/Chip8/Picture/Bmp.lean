/-
Pictures as BMP files.

A file is a header and the rows of the picture from the bottom to the top.  The
bytes of a pixel stand the other way round, blue first, and every row is filled
up to a multiple of four bytes.
-/
import Chip8.Picture.Bytes

namespace Chip8.Bmp

open Bytes

/-- The bytes of a row, filled up with zeros. -/
def padded (bytes : List Byte) : List Byte :=
  bytes ++ List.replicate ((4 - bytes.length % 4) % 4) 0

/-- The rows of a picture from the bottom to the top. -/
def body (p : Picture) : List Byte :=
  p.image.rows.toList.reverse.flatMap fun row =>
    padded (row.toList.flatMap fun c => c.bytes.reverse)

/-- The length of the header. -/
def headerSize : Nat := 54

/-- The header for a body of some length: two letters, the sizes, and the kind of
the pixels, at about 96 pixels an inch. -/
def header (p : Picture) (length : Nat) : List Byte :=
  [0x42, 0x4D] ++ lowFirst 4 (headerSize + length) ++ lowFirst 4 0 ++ lowFirst 4 headerSize
    ++ lowFirst 4 40 ++ lowFirst 4 p.width ++ lowFirst 4 p.height ++ lowFirst 2 1
    ++ lowFirst 2 24 ++ lowFirst 4 0 ++ lowFirst 4 length ++ lowFirst 4 3780
    ++ lowFirst 4 3780 ++ lowFirst 4 0 ++ lowFirst 4 0

/-- A picture as a file. -/
def encode (p : Picture) : List Byte :=
  header p (body p).length ++ body p

end Chip8.Bmp
