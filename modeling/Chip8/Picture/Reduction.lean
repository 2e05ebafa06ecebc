import Chip8.Picture

/-!
# Smaller images

An image is made smaller along its rows first and then along its columns. A new pixel is a mean of
the old ones that lie within three new pixels of its middle. Their weights are the heights of a
wave that dies away: the cardinal sine of the distance times the cardinal sine of a third of it.
The heights are worked out as fractions with twenty decimal places, and the weights made of them
have 22 binary places.
-/

namespace Chip8.Picture.Reduction

/-! ## Heights -/

/-- The number one, as a fraction with twenty decimal places. -/
abbrev one : Int := 100000000000000000000

abbrev piSquare : Int := 986960440108935861883

def times (x y : Int) : Int := x * y / one

/-- What each term of the series for the cardinal sine is divided by. -/
def divisors : List Int := (List.range 16).map fun (k : Nat) => one * ((2 * k + 2) * (2 * k + 3))

/-- The cardinal sine, `sin a / a`, of the root `a` of a fraction, by the first terms of its
series. What they leave out up to `a = π` lies behind the twentieth place. -/
def cardinalSine (square : Int) : Int :=
  divisors.foldr (fun divisor rest => one - square * rest / divisor) one

/-- The height of the wave at the distance `n / d` from its middle. The sine of three times an angle
is a polynomial in the sine of the angle, so that one series is enough. -/
def height (n d : Int) : Int :=
  if -3 * d ≤ n ∧ n < 3 * d then
    let square := piSquare * (n * n) / (9 * d * d)
    let sine := cardinalSine square
    let power := times sine sine
    times power (one - times square power * 4 / 3)
  else 0

/-! ## Weights -/

/-- How a new pixel is made: the places of old ones, and their weights. -/
abbrev Blend := List (Nat × Int)

abbrev unit : Int := 4194304

/-- The share of `height` in a total, rounded to the nearest, in the middle away from zero. -/
def share (total height : Int) : Int :=
  let weight := (2 * height.natAbs * unit + total) / (2 * total)
  if height < 0 then -weight else weight

/-- The blend for the place `p` when `source` pixels become `size`. -/
def blend (source size p : Nat) : Blend :=
  let first := ((2 * p + 1) * source + size - 6 * source) / (2 * size)
  let last := min source (((2 * p + 7) * source + size) / (2 * size))
  let heights := (List.range' first (last - first)).map fun (x : Nat) =>
    (x, height ((2 * x + 1) * size - (2 * p + 1) * source) (2 * source))
  let total := heights.foldl (fun total (_, height) => total + height) 0
  heights.map fun (x, height) => (x, share total height)

/-- A blend asks for no pixel beyond the row. -/
theorem lt_source_of_mem_blend {source size p x : Nat} {weight : Int}
    (h : (x, weight) ∈ blend source size p) : x < source := by
  simp only [blend, List.mem_map, List.mem_range'_1, Prod.mk.injEq] at h
  obtain ⟨_, ⟨y, hy, rfl⟩, rfl, -⟩ := h
  omega

def blends (source size : Nat) : List Blend := (List.range size).map (blend source size)

/-- The pixel that a blend makes of a row, or the nearest there is. -/
def Blend.pixel (b : Blend) (row : Array UInt8) : UInt8 :=
  let sum := b.foldl (fun sum (x, weight) => sum + weight * (row.getD x 0).toNat) (unit / 2)
  .ofInt (min 255 (max 0 (sum / unit)))

def blended (bs : List Blend) (row : List UInt8) : List UInt8 :=
  let row := row.toArray
  bs.map fun b => b.pixel row

theorem length_blended (source size : Nat) (row : List UInt8) :
    (blended (blends source size) row).length = size := by
  simp [blended, blends]

end Chip8.Picture.Reduction

/-! ## Images -/

namespace Chip8.Image

open Picture.Reduction

def transposed (image : Image) : Image where
  width := image.height
  height := image.width
  rows :=
    let rows := mapRuns List.toArray image.rows
    (List.range image.width).map fun x => rows.map fun row => row.getD x 0

def narrowed (image : Image) (width : Nat) : Image :=
  if width = image.width then image
  else
    let bs := blends image.width width
    { width, height := image.height, rows := mapRuns (blended bs) image.rows }

theorem width_narrowed (image : Image) (width : Nat) : (image.narrowed width).width = width := by
  rw [narrowed]
  split
  · next h => exact h.symm
  · rfl

theorem height_narrowed (image : Image) (width : Nat) :
    (image.narrowed width).height = image.height := by
  rw [narrowed]
  split <;> rfl

def reduced (image : Image) (width height : Nat) : Image :=
  ((image.narrowed width).transposed.narrowed height).transposed

theorem width_reduced (image : Image) (width height : Nat) :
    (image.reduced width height).width = width := by
  rw [reduced, transposed, height_narrowed, transposed, width_narrowed]

theorem height_reduced (image : Image) (width height : Nat) :
    (image.reduced width height).height = height := by
  rw [reduced, transposed, width_narrowed]

end Chip8.Image
