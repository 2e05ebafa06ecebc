import Chip8.Picture
import Chip8.Picture.Bytes

/-!
# Portable network graphics

The bytes of a picture file: a grey image of eight bits a pixel, its rows stored without
compression. A file is a signature and three chunks, for the size, the pixels and the end; every
chunk carries its length in front and a check sum behind.
-/

namespace Chip8.Picture.Png

/-! ## Check sums -/

/-- Divide by the polynomial of the cyclic check, bit by bit. -/
def reduce (c : UInt32) : Nat → UInt32
  | 0 => c
  | n + 1 => reduce (if c % 2 = 1 then (c >>> 1) ^^^ 0xEDB88320 else c >>> 1) n

def crc (bs : List UInt8) : UInt32 :=
  (bs.foldl (fun c b => reduce (c ^^^ b.toUInt32) 8) 0xFFFFFFFF) ^^^ 0xFFFFFFFF

/-- The sum check of the stored data: the sum of the bytes, and the sum of its values on the way. -/
def sums (bs : List UInt8) : UInt32 :=
  let (a, b) := bs.foldl (fun (a, b) x =>
    let a := (a + x.toUInt32) % 65521
    (a, (b + a) % 65521)) (1, 0)
  (b <<< 16) ||| a

/-! ## Data -/

abbrev blockSize : Nat := 0xFFFF

/-- Bytes stored as they are, behind a mark, their number and its complement. -/
def block (mark : UInt8) (bs : List UInt8) : List UInt8 :=
  mark :: littleEndian 2 bs.length ++ littleEndian 2 (blockSize - bs.length) ++ bs

/-- Pieces as blocks, the last of them marked. -/
def blocks : List (List UInt8) → List UInt8
  | [] => []
  | [bs] => block 1 bs
  | bs :: rest => block 0 bs ++ blocks rest

/-- A stream of stored blocks, with its header and its check. -/
def stored (bs : List UInt8) : List UInt8 :=
  [0x78, 0x01] ++ blocks (pieces blockSize bs) ++ bigEndian 4 (sums bs).toNat

/-! ## Chunks -/

def chunk (kind : String) (data : List UInt8) : List UInt8 :=
  let body := text kind ++ data
  bigEndian 4 data.length ++ body ++ bigEndian 4 (crc body).toNat

/-- The file of an image. Each row begins with a byte that says it is stored as it is. -/
def encode (image : Image) : List UInt8 :=
  [0x89, 0x50, 0x4E, 0x47, 0x0D, 0x0A, 0x1A, 0x0A]
    ++ chunk "IHDR" (bigEndian 4 image.width ++ bigEndian 4 image.height ++ [8, 0, 0, 0, 0])
    ++ chunk "IDAT" (stored (image.rows.flatMap fun row => 0 :: row))
    ++ chunk "IEND" []

end Chip8.Picture.Png
