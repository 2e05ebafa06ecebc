import Chip8.Bitmap
import Chip8.Capacity
import Chip8.Error
import Chip8.Runs

/-!
# Pictures

What a bitmap looks like: as text with two characters a pixel, or as an image in grey levels with
every pixel enlarged to a square.
-/

namespace Chip8

namespace Bitmap

/-- All pixels, line by line. -/
def bits (d : Bitmap) : List Bool := d.lines.toList.flatMap fun l => l.cells.toList

theorem offset_lt (x : Fin width) (y : Fin height) : width * y.val + x.val < pixels := by
  have hx := x.isLt
  have hy := y.isLt
  simp only [width, height, pixels] at *
  omega

def ofVector (v : Vector Bool pixels) : Bitmap where
  lines := .ofFn fun y => ⟨.ofFn fun x => v.get ⟨width * y.val + x.val, offset_lt x y⟩⟩

theorem get_ofVector (v : Vector Bool pixels) (x : Fin width) (y : Fin height) :
    (ofVector v).get x y = v.get ⟨width * y.val + x.val, offset_lt x y⟩ := by
  simp [get, Line.get, ofVector]

/-- `_as_grid`: the bitmap of a list of pixels, line by line. -/
def ofBits (bits : List Bool) : Except Error Bitmap :=
  if h : bits.toArray.size = pixels then .ok (ofVector ⟨bits.toArray, h⟩)
  else .error (.bitmapSize bits.length)

/-- The bitmap of a list of numbers, of which all but zero are lit pixels. -/
def ofNumbers (zs : List Int) : Except Error Bitmap := ofBits (zs.map (· ≠ 0))

/-- The lit pixels, line by line. -/
def lit (d : Bitmap) : List (Fin width × Fin height) :=
  (List.finRange height).flatMap fun y =>
    (List.finRange width).filterMap fun x => if d.get x y then some (x, y) else none

theorem mem_lit {d : Bitmap} {x : Fin width} {y : Fin height} :
    (x, y) ∈ d.lit ↔ d.get x y = true := by
  simp only [lit, List.mem_flatMap, List.mem_filterMap, List.mem_finRange, true_and]
  constructor
  · rintro ⟨y', x', h⟩
    split at h <;> simp_all
  · exact fun h => ⟨y, x, by simp [h]⟩

/-! ## Text -/

abbrev onText : String := "██"

abbrev offText : String := "  "

def Line.chars (l : Line) (on off : List Char) : List Char :=
  l.cells.toList.flatMap fun p => if p then on else off

/-- `display_to_text`: one line of text for each line of pixels. -/
def text (d : Bitmap) (on off : String) : String :=
  String.ofList
    (['\n'].intercalate (d.lines.toList.map fun l => l.chars on.toList off.toList))

end Bitmap

/-- An image in grey levels, from 0 for black to 255 for white. -/
structure Image where
  width : Nat
  height : Nat
  rows : List (List UInt8)
deriving DecidableEq

namespace Image

def isEmpty (image : Image) : Bool := image.width = 0 || image.height = 0

/-- The grey levels in use, in ascending order. -/
def levels (image : Image) : List UInt8 :=
  (mapRuns List.eraseDups image.rows).flatten.eraseDups.mergeSort (· ≤ ·)

/-- The place of every pixel's level among the levels in use. -/
def places (image : Image) : List (List UInt8) :=
  let levels := image.levels
  mapRuns (fun row => row.map fun p => UInt8.ofNat (levels.idxOf p)) image.rows

end Image

namespace Bitmap

abbrev imageScale : Int := 8

def grey (p : Bool) : UInt8 := if p then 255 else 0

/-- The image in which every pixel is a square with the side `scale`. -/
def enlarge (d : Bitmap) (scale : Nat) : Image where
  width := width * scale
  height := height * scale
  rows := d.lines.toList.flatMap fun l =>
    .replicate scale (l.cells.toList.flatMap fun p => .replicate scale (grey p))

/-- Refuse an image that is too large to be made. -/
def checkSize (rows columns : Int) : Except Error Unit :=
  if rows < 0 ∨ columns < 0 then .error .negativeScale
  else if Capacity.maxCount < rows * columns then .error .imageSize
  else if Capacity.maxBytes < rows * columns then
    .error (.imageMemory rows.toNat columns.toNat)
  else .ok ()

/-- Refuse a scale at which no image can be made. The pixels are repeated along the columns first
and then along the rows, and their numbers are counts. -/
def checkScale (scale : Int) : Except Error Unit := do
  if !Capacity.countable scale then throw .scaleRange
  let rows := Capacity.wrap (height * scale)
  checkSize rows width
  checkSize rows (Capacity.wrap (width * scale))
  if Capacity.maxCount < height * scale then throw .imageSize

/-- `display_to_image`: the image in which every pixel is a square with the side `scale`, if one can
be made. A negative scale can only pass where the counts wrap to zero, and leaves no pixel. -/
def image (d : Bitmap) (scale : Int) : Except Error Image := do
  checkScale scale
  return d.enlarge scale.toNat

theorem image_eq_ok {d : Bitmap} {scale : Int} {image : Image} :
    d.image scale = .ok image ↔ checkScale scale = .ok () ∧ image = d.enlarge scale.toNat := by
  rw [Bitmap.image]
  cases checkScale scale with
  | error e => simp [bind, Except.bind]
  | ok u => exact ⟨fun h => ⟨rfl, (Except.ok.inj h).symm⟩, fun ⟨_, h⟩ => h ▸ rfl⟩

end Bitmap

end Chip8
