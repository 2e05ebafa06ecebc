import Chip8.Picture.Png
import Chip8.Picture.Reduction

/-!
# Icons

An icon holds one picture in several sizes. Every square of the usual sizes that does not reach
beyond the image is given a frame, which is the image reduced until it fits the square. Whoever
opens the icon finds the largest frame.
-/

namespace Chip8.Picture.Icon

def sides : List Nat := [16, 24, 32, 48, 64, 128, 256]

/-- The sides of the squares that do not reach beyond an image. -/
def sidesWithin (image : Image) : List Nat :=
  sides.filter fun side => side ≤ image.width ∧ side ≤ image.height

/-- The part of `side` that `length` is of `longest`, no less than one pixel. -/
def inProportion (side length longest : Nat) : Nat := max 1 (side * length / longest)

theorem inProportion_le {side length longest : Nat} (hs : 0 < side) (hl : length ≤ longest) :
    inProportion side length longest ≤ side := by
  refine Nat.max_le.2 ⟨hs, ?_⟩
  rcases Nat.eq_zero_or_pos longest with h | h
  · simp [h]
  · exact Nat.div_le_of_le_mul (by rw [Nat.mul_comm longest]; exact Nat.mul_le_mul_left side hl)

/-- The image reduced until it fits a square. -/
def fitted (image : Image) (side : Nat) : Image :=
  let longest := max image.width image.height
  image.reduced (inProportion side image.width longest) (inProportion side image.height longest)

theorem width_fitted_le {image : Image} {side : Nat} (h : 0 < side) :
    (fitted image side).width ≤ side := by
  rw [fitted, Image.width_reduced]
  exact inProportion_le h (Nat.le_max_left ..)

theorem height_fitted_le {image : Image} {side : Nat} (h : 0 < side) :
    (fitted image side).height ≤ side := by
  rw [fitted, Image.height_reduced]
  exact inProportion_le h (Nat.le_max_right ..)

def frames (image : Image) : List Image := (sidesWithin image).map (fitted image)

/-- The largest frame of an icon. An image that no square is small enough for is left as it is. -/
def largest (image : Image) : Image :=
  match (sidesWithin image).getLast? with
  | some side => fitted image side
  | none => image

/-! ## Files -/

abbrev headerSize : Nat := 6
abbrev entrySize : Nat := 16

/-- The entry for a frame whose file of `size` bytes begins at `start`. A side of 256 is written as
zero. -/
def entry (frame : Image) (size start : Nat) : List UInt8 :=
  [UInt8.ofNat frame.width, UInt8.ofNat frame.height, 0, 0, 0, 0, 8, 0]
    ++ littleEndian 4 size ++ littleEndian 4 start

/-- The entries for frames with their files, of which the first begins at `start`. -/
def entries (start : Nat) : List (Image × List UInt8) → List UInt8
  | [] => []
  | (frame, file) :: rest =>
    entry frame file.length start ++ entries (start + file.length) rest

/-- Every frame is a file of its own in the file of an icon. -/
def encode (image : Image) : List UInt8 :=
  let frames := (frames image).map fun frame => (frame, Png.encode frame)
  [0, 0, 1, 0] ++ littleEndian 2 frames.length
    ++ entries (headerSize + entrySize * frames.length) frames
    ++ frames.flatMap Prod.snd

end Chip8.Picture.Icon
