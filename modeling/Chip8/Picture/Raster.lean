import Chip8.Picture.Bytes
import Chip8.Picture

/-!
# Raster files

Picture files in which the grey levels of an image stand one after the other, a byte each, behind a
header that tells its size. Some formats begin with the lowest row.
-/

namespace Chip8.Picture.Raster

def downward (image : Image) : List UInt8 := image.rows.flatten

/-- All grey levels, from the lowest row to the highest. -/
def upward (image : Image) : List UInt8 := image.rows.reverse.flatten

/-- Every grey level as a colour of so many bytes, with nothing in those behind the third. -/
def greyTable (size : Nat) : List UInt8 :=
  (List.range 256).flatMap fun n => .replicate 3 (UInt8.ofNat n) ++ unused (size - 3)

/-- A portable grey map. -/
def ppm (image : Image) : List UInt8 :=
  text ("P5\n" ++ toString image.width ++ " " ++ toString image.height ++ "\n255\n")
    ++ downward image

/-- A bitmap without the header of a file: a header of its own, the colours and the rows. -/
def dib (image : Image) : List UInt8 :=
  littleEndian 4 40 ++ littleEndian 4 image.width ++ littleEndian 4 image.height
    ++ littleEndian 2 1 ++ littleEndian 2 8 ++ unused 16 ++ littleEndian 4 256
    ++ littleEndian 4 256 ++ greyTable 4 ++ image.rows.reverse.flatMap (padded 4)

/-- A bitmap behind a header that tells where its pixels begin. -/
def bmp (image : Image) : List UInt8 :=
  let bitmap := dib image
  text "BM" ++ littleEndian 4 (14 + bitmap.length) ++ unused 4 ++ littleEndian 4 (14 + 40 + 1024)
    ++ bitmap

def shortTag (tag value : Nat) : List UInt8 :=
  littleEndian 2 tag ++ littleEndian 2 3 ++ littleEndian 4 1 ++ littleEndian 4 value

def longTag (tag value : Nat) : List UInt8 :=
  littleEndian 2 tag ++ littleEndian 2 4 ++ littleEndian 4 1 ++ littleEndian 4 value

/-- A file with one directory of tags and one strip of pixels behind it. -/
def tiff (image : Image) : List UInt8 :=
  let pixels := downward image
  text "II" ++ littleEndian 2 42 ++ littleEndian 4 8 ++ littleEndian 2 9
    ++ longTag 256 image.width ++ longTag 257 image.height ++ shortTag 258 8 ++ shortTag 259 1
    ++ shortTag 262 1 ++ longTag 273 (8 + 2 + 9 * 12 + 4) ++ shortTag 277 1
    ++ longTag 278 image.height ++ longTag 279 pixels.length ++ unused 4 ++ pixels

def tga (image : Image) : List UInt8 :=
  [0, 0, 3] ++ unused 9 ++ littleEndian 2 image.width ++ littleEndian 2 image.height ++ [8, 0x20]
    ++ downward image

def sgi (image : Image) : List UInt8 :=
  bigEndian 2 474 ++ [0, 1] ++ bigEndian 2 2 ++ bigEndian 2 image.width
    ++ bigEndian 2 image.height ++ bigEndian 2 1 ++ bigEndian 4 0 ++ bigEndian 4 255
    ++ unused (4 + 80 + 4 + 404) ++ upward image

/-- A file whose header is lines of text. -/
def im (image : Image) : List UInt8 :=
  let header := text
    ("Image type: Greyscale image\r\nImage size (x*y): " ++ toString image.width ++ "*"
      ++ toString image.height ++ "\r\nFile size (no of images): 1\r\n")
  header ++ unused (511 - header.length) ++ [0x1A] ++ upward image

def dds (image : Image) : List UInt8 :=
  let word := littleEndian 4
  text "DDS " ++ word 124 ++ word 0x100F ++ word image.height ++ word image.width
    ++ word image.width ++ unused (2 * 4 + 11 * 4) ++ word 32 ++ word 0x20000 ++ word 0 ++ word 8
    ++ word 0xFF ++ word 0xFF ++ word 0xFF ++ word 0 ++ word 0x1000 ++ unused (4 * 4)
    ++ downward image

/-! ## Runs -/

abbrev maxRun : Nat := 63

/-- So many bytes `b`: a single small byte stands for itself. -/
def run (b : UInt8) (count : Nat) : List UInt8 :=
  if count = 1 ∧ b < 0xC0 then [b] else [0xC0 + UInt8.ofNat count, b]

/-- The runs in bytes that go on behind `count` bytes `b`. -/
def runsBehind (b : UInt8) (count : Nat) : List UInt8 → List UInt8
  | [] => run b count
  | c :: cs =>
    if c = b ∧ count < maxRun then runsBehind b (count + 1) cs
    else run b count ++ runsBehind c 1 cs

def runs : List UInt8 → List UInt8
  | [] => []
  | b :: bs => runsBehind b 1 bs

/-- A file whose rows are written in runs. -/
def pcx (image : Image) : List UInt8 :=
  let stride := image.width + image.width % 2
  [10, 5, 1, 8] ++ unused 4 ++ littleEndian 2 (image.width - 1) ++ littleEndian 2 (image.height - 1)
    ++ littleEndian 2 image.width ++ littleEndian 2 image.height ++ unused 49 ++ [1]
    ++ littleEndian 2 stride ++ littleEndian 2 1 ++ unused 58
    ++ image.rows.flatMap (fun row => runs (padded 2 row)) ++ [0x0C] ++ greyTable 3

end Chip8.Picture.Raster
