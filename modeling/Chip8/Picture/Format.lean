/-
The formats in which a picture can be saved.

The extension of a path chooses the format, in letters of any case.

* `ImageFormat.ofPath?` — the format for a path, if there is one;
* `ImageFormat.encode` — a picture as a file of a format.
-/
import Chip8.Files
import Chip8.Picture.Bmp
import Chip8.Picture.Png

namespace Chip8

/-- The formats in which a picture can be saved. -/
inductive ImageFormat where
  | png
  | bmp
deriving DecidableEq, Repr

namespace ImageFormat

/-- The format that the extension of a path asks for. -/
def ofPath? (path : String) : Option ImageFormat :=
  match (Path.extension path).map Char.toLower with
  | ".png" | ".apng" => some .png
  | ".bmp" => some .bmp
  | _ => none

/-- A picture as a file. -/
def encode (format : ImageFormat) (p : Picture) : List Byte :=
  match format with
  | png => Png.encode p
  | bmp => Bmp.encode p

end ImageFormat

end Chip8
