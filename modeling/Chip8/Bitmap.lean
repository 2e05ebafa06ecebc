/-!
# Bitmaps

The display is a bitmap of 64 by 32 pixels. Drawing a sprite flips the pixels under its bits, byte
by byte down the lines, and wraps around both edges; it reports whether a lit pixel went out.
-/

namespace Chip8

namespace Bitmap

abbrev width : Nat := 64

abbrev height : Nat := 32

abbrev pixels : Nat := width * height

/-- The pixels of a line, from left to right. -/
structure Line where
  cells : Vector Bool width
deriving DecidableEq

end Bitmap

/-- The lines of a picture, from top to bottom. -/
structure Bitmap where
  lines : Vector Bitmap.Line Bitmap.height
deriving DecidableEq

namespace Bitmap

def blank : Bitmap := ⟨.replicate height ⟨.replicate width false⟩⟩

def Line.get (l : Line) (x : Fin width) : Bool := l.cells[x]

def get (d : Bitmap) (x : Fin width) (y : Fin height) : Bool := d.lines[y].get x

def set (d : Bitmap) (x : Fin width) (y : Fin height) (on : Bool) : Bitmap :=
  ⟨d.lines.set y ⟨d.lines[y].cells.set x on⟩⟩

theorem get_blank (x : Fin width) (y : Fin height) : blank.get x y = false := by
  simp [get, Line.get, blank]

theorem get_set (d : Bitmap) (x x' : Fin width) (y y' : Fin height) (on : Bool) :
    (d.set x y on).get x' y' = if x = x' ∧ y = y' then on else d.get x' y' := by
  simp only [get, Line.get, set, Fin.getElem_fin, Vector.getElem_set, Fin.ext_iff]
  by_cases hy : y.val = y'.val <;> by_cases hx : x.val = x'.val <;>
    simp [hx, hy]

theorem ext_get {d e : Bitmap} (h : ∀ x y, d.get x y = e.get x y) : d = e := by
  obtain ⟨d⟩ := d
  obtain ⟨e⟩ := e
  congr 1
  refine Vector.ext fun y hy => ?_
  show (⟨d[y].cells⟩ : Line) = ⟨e[y].cells⟩
  congr 1
  exact Vector.ext fun x hx => h ⟨x, hx⟩ ⟨y, hy⟩

/-! ## Lines -/

/-- The pixels that a sprite byte covers when drawn from column `x` on, its highest bit first. -/
def Line.ofByte (x : Nat) (b : UInt8) : Line where
  cells := .ofFn fun col =>
    let c := (col.val + (width - x % width)) % width
    decide (c < 8) && b.toNat.testBit (7 - c)

def Line.flip (l mask : Line) : Line := ⟨l.cells.zipWith xor mask.cells⟩

/-- Some lit pixel lies under the mask. -/
def Line.meets (l mask : Line) : Bool :=
  (List.finRange width).any fun x => l.get x && mask.get x

theorem Line.get_flip (l mask : Line) (x : Fin width) :
    (l.flip mask).get x = xor (l.get x) (mask.get x) := by
  simp [Line.get, Line.flip]

theorem Line.meets_eq_true {l mask : Line} :
    l.meets mask = true ↔ ∃ x, l.get x = true ∧ mask.get x = true := by
  simp [Line.meets]

theorem Line.get_ofByte (x : Nat) (b : UInt8) (col : Fin width) :
    (Line.ofByte x b).get col =
      (decide ((col.val + (width - x % width)) % width < 8) &&
        b.toNat.testBit (7 - (col.val + (width - x % width)) % width)) := by
  simp [Line.get, Line.ofByte]

/-! ## Sprites -/

/-- The line with the number `y`, counted around the lower edge. -/
def lineOf (y : Nat) : Fin height := ⟨y % height, Nat.mod_lt y (by decide)⟩

/-- One row of `_op_drw`: the byte at column `x` of line `y`, and whether a lit pixel goes out. -/
def drawByte (d : Bitmap) (x y : Nat) (b : UInt8) : Bitmap × Bool :=
  let old := d.lines[lineOf y]
  let mask := Line.ofByte x b
  (⟨d.lines.set (lineOf y) (old.flip mask)⟩, old.meets mask)

/-- A pixel is flipped if it lies on the line that is drawn to, under a bit that is set. -/
theorem get_drawByte (d : Bitmap) (x y : Nat) (b : UInt8) (col : Fin width) (row : Fin height) :
    (d.drawByte x y b).1.get col row =
      xor (d.get col row) (decide (row = lineOf y) && (Line.ofByte x b).get col) := by
  simp only [get, drawByte, Fin.getElem_fin, Vector.getElem_set, Fin.ext_iff]
  by_cases h : (lineOf y).val = row.val
  · simp [h, Line.get_flip]
  · simp [h, Ne.symm h]

theorem drawByte_hit {d : Bitmap} {x y : Nat} {b : UInt8} :
    (d.drawByte x y b).2 = true ↔
      ∃ col, d.get col (lineOf y) = true ∧ (Line.ofByte x b).get col = true :=
  Line.meets_eq_true

/-- The rows of `_op_drw`, one below the other from line `y` on. -/
def draw (d : Bitmap) (x y : Nat) : List UInt8 → Bitmap × Bool
  | [] => (d, false)
  | b :: bs =>
    let (d, hit) := d.drawByte x y b
    let (d, hits) := draw d x (y + 1) bs
    (d, hit || hits)

end Bitmap

end Chip8
