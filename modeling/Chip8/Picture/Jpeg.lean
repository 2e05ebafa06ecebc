import Chip8.Picture.Bytes
import Chip8.Picture.Jpeg.Code

/-!
# Photographic files

The bytes of a picture file that keeps its image only nearly: the steps of the waves, the codes, and
then all blocks in these codes. Every part is a segment that begins with a marker and its length.
-/

namespace Chip8.Picture.Jpeg

/-- A marker with data behind it. -/
def segment (marker : UInt8) (data : List UInt8) : List UInt8 :=
  [0xFF, marker] ++ bigEndian 2 (data.length + 2) ++ data

def codeSegment (kind : UInt8) (t : CodeTable) : List UInt8 :=
  segment 0xC4 (kind :: (t.counts ++ t.symbols).map UInt8.ofNat)

/-- Bytes between which no marker can be seen. -/
def withoutMarkers (bs : List UInt8) : List UInt8 :=
  bs.flatMap fun b => if b = 0xFF then [b, 0] else [b]

def encode (image : Image) : List UInt8 :=
  [0xFF, 0xD8]
    ++ segment 0xE0 (text "JFIF" ++ [0, 1, 1, 0, 0, 1, 0, 1, 0, 0])
    ++ segment 0xDB (0 :: (diagonal steps).map UInt8.ofNat)
    ++ segment 0xC0 (8 :: bigEndian 2 image.height ++ bigEndian 2 image.width ++ [1, 1, 0x11, 0])
    ++ codeSegment 0x00 .first ++ codeSegment 0x10 .others
    ++ segment 0xDA [1, 1, 0, 0, 63, 0]
    ++ withoutMarkers (packBits (codeBlocks 0 (measuredBlocks image).flatten)) ++ [0xFF, 0xD9]

end Chip8.Picture.Jpeg
