/-
Pictures as PNG files.

A file is a signature and a sequence of chunks: the sizes, the pixels and an
end.  The pixels are rows of bytes, red, green and blue in turn, each row behind
a byte that says that it is not filtered.  They are stored without compression,
in blocks, between the two checksums that the format asks for.
-/
import Chip8.Picture.Bytes

namespace Chip8.Png

open Bytes

/-- A checksum advanced by one bit. -/
def crcBit (crc : UInt32) : UInt32 :=
  if crc &&& 1 = 1 then (crc >>> 1) ^^^ 0xEDB88320 else crc >>> 1

/-- A checksum advanced by so many bits. -/
def crcBits : Nat → UInt32 → UInt32
  | 0, crc => crc
  | n + 1, crc => crcBits n (crcBit crc)

/-- The checksum of a chunk. -/
def crc (bytes : List Byte) : UInt32 :=
  bytes.foldl (fun crc b => crcBits 8 (crc ^^^ b.toUInt32)) 0xFFFFFFFF ^^^ 0xFFFFFFFF

/-- The checksum of the pixels: the sum of the bytes, and the sum of these sums. -/
def adler (bytes : List Byte) : Nat :=
  let (a, b) := bytes.foldl (fun (a, b) byte =>
    let a := (a + byte.toNat) % 65521
    (a, (b + a) % 65521)) (1, 0)
  65536 * b + a

/-- A block of stored bytes. -/
def storedBlock (last : Bool) (piece : List Byte) : List Byte :=
  (if last then 1 else 0) :: lowFirst 2 piece.length ++ lowFirst 2 (65535 - piece.length) ++ piece

/-- Pieces as blocks, the last of which says so. -/
def storedBlocks : List (List Byte) → List Byte
  | [] => storedBlock true []
  | [piece] => storedBlock true piece
  | piece :: rest => storedBlock false piece ++ storedBlocks rest

/-- Bytes as a stream without compression. -/
def stream (bytes : List Byte) : List Byte :=
  [0x78, 0x01] ++ storedBlocks (pieces 65534 bytes) ++ highFirst 4 (adler bytes)

/-- A chunk of a kind that is named by four letters. -/
def chunk (kind : String) (data : List Byte) : List Byte :=
  let tagged := kind.toUTF8.data.toList ++ data
  highFirst 4 data.length ++ tagged ++ highFirst 4 (crc tagged).toNat

/-- The rows of a picture, each behind its filter. -/
def scanlines (p : Picture) : List Byte :=
  p.image.rows.toList.flatMap fun row => 0 :: row.toList.flatMap Color.bytes

/-- The sizes of a picture and the kind of its pixels. -/
def header (p : Picture) : List Byte :=
  highFirst 4 p.width ++ highFirst 4 p.height ++ [8, 2, 0, 0, 0]

/-- The signature of a file. -/
def signature : List Byte := [0x89, 0x50, 0x4E, 0x47, 0x0D, 0x0A, 0x1A, 0x0A]

/-- A picture as a file. -/
def encode (p : Picture) : List Byte :=
  signature ++ chunk "IHDR" (header p) ++ chunk "IDAT" (stream (scanlines p)) ++ chunk "IEND" []

end Chip8.Png
