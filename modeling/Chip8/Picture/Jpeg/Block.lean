import Chip8.Picture

/-!
# Blocks of cosines

An image is cut into blocks of eight by eight pixels, each block is taken apart into cosine waves,
and the strength of every wave is rounded to a multiple of its own step. What is put together again
from the rounded waves is near the image, but not always equal to it. All factors are fixed-point
numbers with thirteen binary places.
-/

namespace Chip8.Picture.Jpeg

abbrev side : Nat := 8

/-- Eight rows of eight numbers. -/
abbrev Block := List (List Int)

def transpose (b : Block) : Block :=
  (List.range side).map fun x => b.map fun row => row.getD x 0

/-! ## Waves -/

/-- `z` without its last `n + 1` binary places, rounded to the nearest, in the middle upwards. -/
def dropPlaces (n : Nat) (z : Int) : Int := (z + (1 <<< n : Nat)) >>> (n + 1)

/-- The odd half of the transform, which both directions share. -/
def oddHalf (a b c d : Int) : Int × Int × Int × Int :=
  let both := (a + b + c + d) * 9633
  let ad := (a + d) * -7373
  let bc := (b + c) * -20995
  let ac := (a + c) * -16069 + both
  let bd := (b + d) * -3196 + both
  (a * 2446 + ad + ac, b * 16819 + bc + bd, c * 25172 + bc + ac, d * 12299 + ad + bd)

/-- The waves in eight numbers, without `n + 1` binary places. -/
def waves (n : Nat) : List Int → List Int
  | [p, q, r, s, t, u, v, w] =>
    let (a, b, c, d) := (p + w, q + v, r + u, s + t)
    let middle := (b - c + (a - d)) * 4433
    let (o₇, o₅, o₃, o₁) := oddHalf (s - t) (r - u) (q - v) (p - w)
    [(a + d + (b + c)) * 8192, o₁, middle + (a - d) * 6270, o₃,
     (a + d - (b + c)) * 8192, o₅, middle - (b - c) * 15137, o₇].map (dropPlaces n)
  | zs => zs

/-- The eight numbers made of waves, without `n + 1` binary places. -/
def unwaves (n : Nat) : List Int → List Int
  | [w₀, w₁, w₂, w₃, w₄, w₅, w₆, w₇] =>
    let middle := (w₂ + w₆) * 4433
    let (sum, difference) := ((w₀ + w₄) * 8192, (w₀ - w₄) * 8192)
    let (outer, inner) := (middle + w₂ * 6270, middle - w₆ * 15137)
    let (a, b, c, d) := (sum + outer, difference + inner, difference - inner, sum - outer)
    let (o₀, o₁, o₂, o₃) := oddHalf w₇ w₅ w₃ w₁
    [a + o₃, b + o₂, c + o₁, d + o₀, d - o₀, c - o₁, b - o₂, a - o₃].map (dropPlaces n)
  | zs => zs

/-- The waves in a block, eight times as strong: first those along the rows. -/
def blockWaves (b : Block) : Block :=
  transpose ((transpose (b.map (waves 10))).map (waves 14))

/-- The block made of waves: first those down the columns. -/
def ofBlockWaves (b : Block) : Block :=
  (transpose ((transpose b).map (unwaves 10))).map (unwaves 17)

/-! ## Steps -/

/-- The steps of the waves in a block. -/
def steps : List (List Nat) :=
  [[8, 6, 5, 8, 12, 20, 26, 31],
   [6, 6, 7, 10, 13, 29, 30, 28],
   [7, 7, 8, 12, 20, 29, 35, 28],
   [7, 9, 11, 15, 26, 44, 40, 31],
   [9, 11, 19, 28, 34, 55, 52, 39],
   [12, 18, 28, 32, 41, 52, 57, 46],
   [25, 32, 39, 44, 52, 61, 60, 51],
   [36, 46, 48, 49, 56, 50, 52, 50]]

/-- The multiple of eight steps next to a wave, in the middle the one away from zero. -/
def multiple (wave : Int) (step : Nat) : Int :=
  let n := (wave.natAbs + 4 * step) / (8 * step)
  if wave < 0 then -n else n

/-- How many steps strong the waves in a block are. -/
def measured (b : Block) : Block := List.zipWith (List.zipWith multiple) (blockWaves b) steps

/-- The block made of waves so many steps strong. -/
def restored (b : Block) : Block :=
  ofBlockWaves (List.zipWith (List.zipWith fun n (step : Nat) => n * step) b steps)

/-! ## Images -/

abbrev middleGrey : Int := 128

/-- The grey level for a number, or the nearest there is. -/
def level (z : Int) : UInt8 := .ofInt (min 255 (max 0 (z + middleGrey)))

/-- Eight rows of levels as blocks from left to right. The last pixel of a row goes on beyond it. -/
def blocksOfBand (band : List (List UInt8)) (width : Nat) : List Block :=
  let rows := band.map fun row => (row.map fun p => (p.toNat : Int) - middleGrey).toArray
  (List.range ((width + side - 1) / side)).map fun k =>
    rows.map fun row => (List.range side).map fun x => row.getD (min (side * k + x) (width - 1)) 0

/-- The rows of an image, eight at a time. The last row goes on below the image. -/
def bands : List (List UInt8) → List (List (List UInt8))
  | [] => []
  | row :: rows =>
    let band := (row :: rows).take side
    (band ++ .replicate (side - band.length) (band.getLastD row)) :: bands (rows.drop (side - 1))
termination_by rows => rows.length
decreasing_by simp only [List.length_drop, List.length_cons]; omega

/-- The blocks of an image, how many steps strong their waves are, band by band. -/
def measuredBlocks (image : Image) : List (List Block) :=
  mapRuns (fun band => mapRuns measured (blocksOfBand band image.width)) (bands image.rows)

def bandPixels (width : Nat) (band : List (List UInt8)) : List (List UInt8) :=
  let blocks := mapRuns (fun b => restored (measured b)) (blocksOfBand band width)
  (List.range side).map fun y => (blocks.flatMap fun b => (b.getD y []).map level).take width

/-- The rows of pixels that are read from the file of an image. -/
def pixels (image : Image) : List (List UInt8) :=
  (mapRuns (bandPixels image.width) (bands image.rows)).flatten.take image.height

end Chip8.Picture.Jpeg
