import Chip8.Picture.Bytes
import Chip8.Picture

/-!
# Graphics interchange format

A picture file with a table of colours, in which every pixel is a place in the table. The places are
written as codes of nine bits. A code that clears the reader's memory comes often enough that the
codes never have to grow.
-/

namespace Chip8.Picture.Gif

/-- The code that clears the reader's memory. -/
abbrev clearCode : Nat := 256

abbrev endCode : Nat := 257

/-- Pixels between two clear codes. -/
abbrev stretch : Nat := 250

def codes (places : List UInt8) : List Nat :=
  (pieces stretch places).flatMap (fun piece => clearCode :: piece.map UInt8.toNat) ++ [endCode]

/-- Codes of nine bits as bytes, least significant bit first, behind the `count` bits of `kept`,
fewer than eight. -/
def pack (kept count : Nat) : List Nat → List UInt8
  | [] => if count = 0 then [] else [UInt8.ofNat kept]
  | code :: rest =>
    let bits := kept + (code <<< count)
    if count = 7 then UInt8.ofNat bits :: UInt8.ofNat (bits / 256) :: pack 0 0 rest
    else UInt8.ofNat bits :: pack (bits / 256) (count + 1) rest

/-- Bytes in blocks that begin with their length, and an empty one. -/
def blocks (bs : List UInt8) : List UInt8 :=
  (pieces 255 bs).flatMap (fun piece => UInt8.ofNat piece.length :: piece) ++ [0]

/-- The table of the grey levels in use, filled up to 256 colours. -/
def table (levels : List UInt8) : List UInt8 :=
  let colours := levels.flatMap (List.replicate 3)
  colours ++ unused (3 * 256 - colours.length)

def encode (image : Image) : List UInt8 :=
  let size := littleEndian 2 image.width ++ littleEndian 2 image.height
  text "GIF87a" ++ size ++ [0x87, 0, 0] ++ table image.levels
    ++ [0x2C] ++ unused 4 ++ size ++ [0, 8]
    ++ blocks (pack 0 0 (codes image.places.flatten)) ++ [0x3B]

end Chip8.Picture.Gif
