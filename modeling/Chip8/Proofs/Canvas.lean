import Chip8.Window.Basic

/-!
# The canvas and the image

A window shows the display as rectangles, one for each lit pixel. An image of it repeats every pixel
along the columns and along the rows. Both divide the plane into the same squares: a point lies in
the square of the pixel whose coordinates are its own divided by the scale.
-/

namespace Chip8

/-! ## Pieces of one length -/

theorem length_flatMap_of_length {α β : Type} {f : α → List β} {n : Nat} {xs : List α}
    (hf : ∀ x ∈ xs, (f x).length = n) : (xs.flatMap f).length = n * xs.length := by
  induction xs with
  | nil => simp
  | cons x xs ih =>
    have htail := ih fun y hy => hf y (List.mem_cons_of_mem x hy)
    rw [List.flatMap_cons, List.length_append, hf x List.mem_cons_self, htail, List.length_cons,
      Nat.mul_succ, Nat.add_comm]

/-- In pieces of one length an element is found by its piece and its place there. -/
theorem getElem?_flatMap_of_length {α β : Type} {f : α → List β} {n : Nat} {xs : List α}
    (hf : ∀ x ∈ xs, (f x).length = n) (i : Nat) {j : Nat} (hj : j < n) :
    (xs.flatMap f)[n * i + j]? = xs[i]?.bind fun x => (f x)[j]? := by
  induction xs generalizing i with
  | nil => simp
  | cons x xs ih =>
    have hx := hf x List.mem_cons_self
    rw [List.flatMap_cons]
    cases i with
    | zero =>
      rw [Nat.mul_zero, Nat.zero_add, List.getElem?_append_left (by omega)]
      rfl
    | succ i =>
      rw [Nat.mul_succ, List.getElem?_append_right (by omega), hx,
        show n * i + n + j - n = n * i + j by omega]
      exact ih (fun y hy => hf y (List.mem_cons_of_mem x hy)) i

/-- What is repeated `n` times each is found by division. -/
theorem getElem?_flatMap_replicate {α β : Type} {n : Nat} (hn : 0 < n) (f : α → β) (xs : List α)
    (i : Nat) : (xs.flatMap fun x => .replicate n (f x))[i]? = xs[i / n]?.map f := by
  have hi := getElem?_flatMap_of_length (f := fun x => List.replicate n (f x))
    (fun x (_ : x ∈ xs) => List.length_replicate) (i / n) (Nat.mod_lt i hn)
  rw [Nat.div_add_mod] at hi
  rw [hi]
  cases xs[i / n]? with
  | none => rfl
  | some x => simp [Nat.mod_lt i hn]

theorem getElem?_toList_get {α : Type} {n : Nat} (v : Vector α n) (i : Fin n) :
    v.toList[i.val]? = some (v.get i) := by
  rw [List.getElem?_eq_getElem (by rw [Vector.length_toList]; exact i.isLt), Vector.getElem_toList]
  rfl

def Image.level? (image : Image) (i j : Int) : Option UInt8 :=
  if 0 ≤ i ∧ 0 ≤ j then image.rows[i.toNat]?.bind (·[j.toNat]?) else none

namespace Bitmap

variable {d : Bitmap} {x : Fin width} {y : Fin height} {i j : Int} {s : Nat}

/-! ## Forms of a bitmap -/

/-- The numbers stand for the bitmap, with all but zero for lit pixels: all in one list, or in a
list for each line. -/
inductive Depicted (d : Bitmap) : List Int → Prop
  | flat (zs : List Int) (hl : zs.length = pixels)
    (h : ∀ (x : Fin width) (y : Fin height),
      ∃ z, zs[width * y.val + x.val]? = some z ∧ (z ≠ 0 ↔ d.get x y = true)) : Depicted d zs
  | grid (rows : List (List Int)) (hl : rows.length = height)
    (hw : ∀ row ∈ rows, row.length = width)
    (h : ∀ (x : Fin width) (y : Fin height), ∃ row z,
      rows[y.val]? = some row ∧ row[x.val]? = some z ∧ (z ≠ 0 ↔ d.get x y = true)) :
    Depicted d rows.flatten

theorem ofBits_eq_ok {bits : List Bool} (hl : bits.length = pixels)
    (h : ∀ (x : Fin width) (y : Fin height),
      bits[width * y.val + x.val]? = some (d.get x y)) : ofBits bits = .ok d := by
  have hs : bits.toArray.size = pixels := hl
  rw [ofBits, dif_pos hs, Except.ok.injEq]
  refine ext_get fun x y => ?_
  obtain ⟨hlt, hget⟩ := List.getElem?_eq_some_iff.1 (h x y)
  rw [get_ofVector, ← hget]
  rfl

theorem length_cells (d : Bitmap) : ∀ l ∈ d.lines.toList, l.cells.toList.length = width :=
  fun _ _ => Vector.length_toList

theorem length_bits (d : Bitmap) : d.bits.length = pixels := by
  rw [bits, length_flatMap_of_length d.length_cells, Vector.length_toList]

theorem getElem?_bits (d : Bitmap) (x : Fin width) (y : Fin height) :
    d.bits[width * y.val + x.val]? = some (d.get x y) := by
  rw [bits, getElem?_flatMap_of_length d.length_cells y.val x.isLt, getElem?_toList_get]
  exact getElem?_toList_get (d.lines.get y).cells x

/-- `_as_grid` on the flat view of a bitmap gives the bitmap. -/
theorem ofBits_bits (d : Bitmap) : ofBits d.bits = .ok d :=
  ofBits_eq_ok d.length_bits d.getElem?_bits

theorem ofNumbers_eq_ok {zs : List Int} (hl : zs.length = pixels)
    (h : ∀ (x : Fin width) (y : Fin height),
      ∃ z, zs[width * y.val + x.val]? = some z ∧ (z ≠ 0 ↔ d.get x y = true)) :
    ofNumbers zs = .ok d := by
  refine ofBits_eq_ok (by rw [List.length_map, hl]) fun x y => ?_
  obtain ⟨z, hz, hon⟩ := h x y
  rw [List.getElem?_map, hz, Option.map_some, Option.some_inj]
  exact Bool.eq_iff_iff.2 (decide_eq_true_iff.trans hon)

/-- `_as_grid` does not care for the form that a bitmap comes in. -/
theorem ofNumbers_of_depicted {zs : List Int} (h : d.Depicted zs) : ofNumbers zs = .ok d := by
  cases h with
  | flat _ hl h => exact ofNumbers_eq_ok hl h
  | grid rows hl hw h =>
    rw [← List.flatMap_id']
    refine ofNumbers_eq_ok ?_ fun x y => ?_
    · rw [length_flatMap_of_length hw, hl]
    · obtain ⟨row, z, hrow, hz, hon⟩ := h x y
      refine ⟨z, ?_, hon⟩
      rw [getElem?_flatMap_of_length hw y.val x.isLt, hrow]
      exact hz

/-! ## The image -/

theorem length_rows_enlarge (d : Bitmap) (s : Nat) : (d.enlarge s).rows.length = height * s := by
  rw [enlarge, length_flatMap_of_length fun _ _ => List.length_replicate, Vector.length_toList,
    Nat.mul_comm]

theorem length_of_mem_rows_enlarge {row : List UInt8} (h : row ∈ (d.enlarge s).rows) :
    row.length = width * s := by
  obtain ⟨l, -, hl⟩ := List.mem_flatMap.1 h
  rw [List.eq_of_mem_replicate hl, length_flatMap_of_length fun _ _ => List.length_replicate,
    Vector.length_toList, Nat.mul_comm]

/-- A point has the level of the pixel whose coordinates are its own divided by the scale. -/
theorem level?_enlarge_natCast (hs : 0 < s) (d : Bitmap) (i j : Nat) :
    (d.enlarge s).level? i j =
      d.lines.toList[i / s]?.bind fun l => l.cells.toList[j / s]?.map grey := by
  rw [Image.level?, if_pos ⟨Int.natCast_nonneg i, Int.natCast_nonneg j⟩, Int.toNat_natCast,
    Int.toNat_natCast, enlarge, getElem?_flatMap_replicate hs, Option.bind_map]
  congr 1
  funext l
  exact getElem?_flatMap_replicate hs grey l.cells.toList j

/-- The image has a point where a pixel has a square, with the level of the pixel. -/
theorem level?_enlarge_eq_some (hs : 0 < s) {v : UInt8} :
    (d.enlarge s).level? i j = some v ↔
      ∃ (x : Fin width) (y : Fin height), j / s = x.val ∧ i / s = y.val ∧ grey (d.get x y) = v := by
  by_cases h : 0 ≤ i ∧ 0 ≤ j
  · obtain ⟨i, rfl⟩ := Int.eq_ofNat_of_zero_le h.1
    obtain ⟨j, rfl⟩ := Int.eq_ofNat_of_zero_le h.2
    rw [level?_enlarge_natCast hs, Option.bind_eq_some_iff]
    constructor
    · rintro ⟨l, hl, hv⟩
      obtain ⟨p, hp, rfl⟩ := Option.map_eq_some_iff.1 hv
      obtain ⟨hi, rfl⟩ := List.getElem?_eq_some_iff.1 hl
      obtain ⟨hj, rfl⟩ := List.getElem?_eq_some_iff.1 hp
      rw [Vector.length_toList] at hi hj
      exact ⟨⟨j / s, hj⟩, ⟨i / s, hi⟩, rfl, rfl, rfl⟩
    · rintro ⟨x, y, hx, hy, rfl⟩
      have hx' : j / s = x.val := Int.ofNat_inj.1 hx
      have hy' : i / s = y.val := Int.ofNat_inj.1 hy
      refine ⟨d.lines.get y, ?_, ?_⟩
      · rw [hy', getElem?_toList_get]
      · rw [hx', getElem?_toList_get]
        rfl
  · rw [Image.level?, if_neg h]
    constructor
    · rintro ⟨⟩
    · rintro ⟨x, y, hx, hy, -⟩
      have hs' : (0 : Int) < s := Int.natCast_pos.2 hs
      refine absurd ⟨?_, ?_⟩ h
      · rw [← Int.ediv_nonneg_iff_of_pos hs', hy]
        exact Int.natCast_nonneg _
      · rw [← Int.ediv_nonneg_iff_of_pos hs', hx]
        exact Int.natCast_nonneg _

theorem grey_eq_white {p : Bool} : grey p = 255 ↔ p = true := by cases p <;> decide

theorem checkSize_of_fits {rows columns : Int} (hr : 0 ≤ rows) (hc : 0 ≤ columns)
    (h : rows * columns ≤ Capacity.maxBytes) : checkSize rows columns = .ok () := by
  simp only [Capacity.maxBytes] at h
  rw [checkSize, if_neg (by omega), if_neg (by simp only [Capacity.maxCount]; omega),
    if_neg (by simp only [Capacity.maxBytes]; omega)]

theorem countable_of_fits {z : Int} (h0 : 0 ≤ z) (h : z ≤ Capacity.maxBytes) :
    Capacity.countable z = true := by
  simp only [Capacity.countable, Capacity.minCount, Capacity.maxCount, Capacity.maxBytes,
    Bool.and_eq_true, decide_eq_true_eq] at h ⊢
  omega

/-- All that is counted on the way to an image that fits into memory is counted rightly. -/
theorem checkScale_of_fits {scale : Int} (h1 : 1 ≤ scale)
    (h : 2048 * scale * scale ≤ Capacity.maxBytes) : checkScale scale = .ok () := by
  have hone : 2048 * scale * 1 ≤ 2048 * scale * scale :=
    Int.mul_le_mul_of_nonneg_left h1 (by omega)
  have hline : 2048 * scale ≤ Capacity.maxBytes := by omega
  have hrows : (0 : Int) ≤ height * scale := Int.mul_nonneg (by decide) (by omega)
  have hcolumns : (0 : Int) ≤ width * scale := Int.mul_nonneg (by decide) (by omega)
  have hheight : height * scale ≤ Capacity.maxBytes := by
    show 32 * scale ≤ Capacity.maxBytes
    omega
  have hwidth : width * scale ≤ Capacity.maxBytes := by
    show 64 * scale ≤ Capacity.maxBytes
    omega
  have hrow : (height : Int) * scale * width = 2048 * scale := Int.mul_right_comm _ _ _
  have hsquare : (height : Int) * scale * (width * scale) = 2048 * scale * scale := by
    rw [← Int.mul_assoc, hrow]
  have hfirst : checkSize (height * scale) width = .ok () :=
    checkSize_of_fits hrows (by decide) (by rwa [hrow])
  have hsecond := checkSize_of_fits hrows hcolumns (by rwa [hsquare])
  have hmax : ¬ Capacity.maxCount < height * scale :=
    Int.not_lt.2 (Int.le_trans hheight (by decide))
  simp only [checkScale, countable_of_fits (show 0 ≤ scale by omega) (by omega),
    Capacity.wrap_of_countable (countable_of_fits hrows hheight),
    Capacity.wrap_of_countable (countable_of_fits hcolumns hwidth), hfirst, hsecond, hmax]
  rfl

/-- An image that fits into memory is made. -/
theorem image_of_fits (d : Bitmap) {scale : Int} (h1 : 1 ≤ scale)
    (h : 2048 * scale * scale ≤ Capacity.maxBytes) :
    d.image scale = .ok (d.enlarge scale.toNat) :=
  image_eq_ok.2 ⟨checkScale_of_fits h1 h, rfl⟩

/-! ## The lit pixels -/

/-- Lit pixels are listed line by line, and from left to right in a line. -/
theorem pairwise_lit (d : Bitmap) :
    d.lit.Pairwise fun p q => p.2 < q.2 ∨ (p.2 = q.2 ∧ p.1 < q.1) := by
  have hline : ∀ {x : Fin width} {y : Fin height} {p : Fin width × Fin height},
      (if d.get x y then some (x, y) else none) = some p → p = (x, y) := by
    intro x y p hp
    split at hp <;> cases hp
    rfl
  unfold lit
  rw [List.pairwise_flatMap]
  constructor
  · intro y _
    rw [List.pairwise_filterMap]
    refine (List.pairwise_lt_finRange width).imp fun hlt p hp q hq => ?_
    rw [hline hp, hline hq]
    exact .inr ⟨rfl, hlt⟩
  · refine (List.pairwise_lt_finRange height).imp fun hlt p hp q hq => ?_
    obtain ⟨x, -, hp⟩ := List.mem_filterMap.1 hp
    obtain ⟨x', -, hq⟩ := List.mem_filterMap.1 hq
    rw [hline hp, hline hq]
    exact .inl hlt

theorem nodup_lit (d : Bitmap) : d.lit.Nodup := by
  refine d.pairwise_lit.imp ?_
  rintro p q h rfl
  rcases h with h | ⟨-, h⟩
  · exact Fin.lt_irrefl _ h
  · exact Fin.lt_irrefl _ h

end Bitmap

/-! ## The canvas -/

namespace Window

/-- The request draws a rectangle over the point in row `i` and column `j`; the right and lower
edges are no part of it. -/
def Request.covers (i j : Int) : Request → Bool
  | .rectangle x₁ y₁ x₂ y₂ _ _ => x₁ ≤ j && j < x₂ && y₁ ≤ i && i < y₂
  | _ => false

/-- Both requests draw rectangles, and the corner of the first one lies further up, or further to
the left on the same line. -/
def Request.Before : Request → Request → Prop
  | .rectangle x₁ y₁ _ _ _ _, .rectangle x₂ y₂ _ _ _ _ => y₁ < y₂ ∨ (y₁ = y₂ ∧ x₁ < x₂)
  | _, _ => False

variable {s : Int} {i j : Int}

theorem ediv_eq_iff (hs : 0 < s) {a q : Int} : a / s = q ↔ q * s ≤ a ∧ a < q * s + s := by
  have hl : q ≤ a / s ↔ q * s ≤ a := Int.le_ediv_iff_mul_le hs
  have hu : a / s < q + 1 ↔ a < (q + 1) * s := Int.ediv_lt_iff_lt_mul hs
  rw [Int.add_mul, Int.one_mul] at hu
  omega

/-- The square of a pixel is over the points whose coordinates are the pixel's own if divided by the
scale. -/
theorem covers_square (hs : 0 < s) (p : Fin Bitmap.width × Fin Bitmap.height) :
    (square s p).covers i j = true ↔ j / s = p.1.val ∧ i / s = p.2.val := by
  rw [ediv_eq_iff hs, ediv_eq_iff hs]
  simp [square, Request.covers, and_assoc]

theorem square_before (hs : 0 < s) {p q : Fin Bitmap.width × Fin Bitmap.height}
    (h : p.2 < q.2 ∨ (p.2 = q.2 ∧ p.1 < q.1)) : (square s p).Before (square s q) := by
  have hlt : ∀ {a b : Nat}, a < b → (a : Int) * s < b * s := fun hab =>
    Int.mul_lt_mul_of_pos_right (Int.ofNat_lt.2 hab) hs
  rcases h with h | ⟨h, hx⟩
  · exact .inl (hlt h)
  · refine .inr ⟨?_, hlt hx⟩
    rw [h]

/-- Of the rectangles one is over a point that is white in the image, and none over another. -/
theorem countP_covers (hs : 0 < s) (d : Bitmap) (i j : Int) :
    (d.lit.map (square s)).countP (Request.covers i j) =
      if (d.enlarge s.toNat).level? i j = some 255 then 1 else 0 := by
  have hs' : 0 < s.toNat := by omega
  have hcast : (s.toNat : Int) = s := by omega
  have hlevel : (d.enlarge s.toNat).level? i j = some 255 ↔
      ∃ p ∈ d.lit, (square s p).covers i j = true := by
    rw [Bitmap.level?_enlarge_eq_some hs', hcast]
    constructor
    · rintro ⟨x, y, hx, hy, hv⟩
      exact ⟨(x, y), Bitmap.mem_lit.2 (Bitmap.grey_eq_white.1 hv), (covers_square hs _).2 ⟨hx, hy⟩⟩
    · rintro ⟨⟨x, y⟩, hp, hc⟩
      obtain ⟨hx, hy⟩ := (covers_square hs _).1 hc
      exact ⟨x, y, hx, hy, Bitmap.grey_eq_white.2 (Bitmap.mem_lit.1 hp)⟩
  rw [List.countP_map]
  split
  · next h =>
    obtain ⟨p, hp, hc⟩ := hlevel.1 h
    obtain ⟨hx, hy⟩ := (covers_square hs p).1 hc
    have hsame : ∀ q ∈ d.lit, (Request.covers i j ∘ square s) q = true ↔ (q == p) = true := by
      intro q _
      rw [Function.comp_apply, covers_square hs, hx, hy, beq_iff_eq]
      constructor
      · rintro ⟨hx, hy⟩
        exact Prod.ext (Fin.ext (Int.ofNat_inj.1 hx).symm) (Fin.ext (Int.ofNat_inj.1 hy).symm)
      · rintro rfl
        exact ⟨rfl, rfl⟩
    rw [List.countP_congr hsame]
    exact (d.nodup_lit.count).trans (if_pos hp)
  · next h =>
    rw [List.countP_eq_zero]
    intro p hp hc
    exact h (hlevel.2 ⟨p, hp, hc⟩)

/-- The canvas and an image of the same scale show the same picture. Whatever form a bitmap comes
in, the image has as many points as the canvas, each with the level of the pixel that lies there.
The canvas is cleared, then gets a rectangle for each lit pixel, from top to bottom and from left to
right, and exactly the points that are white in the image lie under a rectangle, under one each. -/
theorem picture_shows_image (w : Window) (hs : 1 ≤ w.scale) :
    let d := w.machine.display
    let image := d.enlarge w.scale.toNat
    (Bitmap.ofBits d.bits = .ok d ∧ ∀ zs, d.Depicted zs → Bitmap.ofNumbers zs = .ok d) ∧
    (∀ made, d.image w.scale = .ok made → made = image) ∧
    (2048 * w.scale * w.scale ≤ Capacity.maxBytes → d.image w.scale = .ok image) ∧
    ((image.rows.length : Int) = 32 * w.scale ∧
      ∀ row ∈ image.rows, (row.length : Int) = 64 * w.scale) ∧
    (∀ (x : Fin Bitmap.width) (y : Fin Bitmap.height) (i j : Int),
      i / w.scale = y.val → j / w.scale = x.val →
        image.level? i j = some (if d.get x y then 255 else 0)) ∧
    ∃ rectangles, w.picture = .clear :: rectangles ∧
      (∀ r, r ∈ rectangles ↔ ∃ (x : Fin Bitmap.width) (y : Fin Bitmap.height),
        d.get x y = true ∧ r = .rectangle (x.val * w.scale) (y.val * w.scale)
          (x.val * w.scale + w.scale) (y.val * w.scale + w.scale) "white" "white") ∧
      rectangles.Pairwise Request.Before ∧
      ∀ i j, rectangles.countP (Request.covers i j) =
        if image.level? i j = some 255 then 1 else 0 := by
  intro d image
  have hpos : 0 < w.scale := by omega
  have hcast : (w.scale.toNat : Int) = w.scale := by omega
  refine ⟨⟨d.ofBits_bits, fun zs => Bitmap.ofNumbers_of_depicted⟩,
    fun made h => (Bitmap.image_eq_ok.1 h).2, d.image_of_fits hs, ⟨?_, fun row hrow => ?_⟩,
    fun x y i j hy hx => ?_, d.lit.map (square w.scale), rfl, fun r => ?_, ?_,
    countP_covers hpos d⟩
  · rw [d.length_rows_enlarge, Int.natCast_mul, hcast]
    rfl
  · rw [Bitmap.length_of_mem_rows_enlarge hrow, Int.natCast_mul, hcast]
    rfl
  · refine (Bitmap.level?_enlarge_eq_some (by omega)).2 ⟨x, y, ?_, ?_, rfl⟩
    · rw [hcast, hx]
    · rw [hcast, hy]
  · rw [List.mem_map]
    constructor
    · rintro ⟨⟨x, y⟩, hp, rfl⟩
      exact ⟨x, y, Bitmap.mem_lit.1 hp, rfl⟩
    · rintro ⟨x, y, hp, rfl⟩
      exact ⟨(x, y), Bitmap.mem_lit.2 hp, rfl⟩
  · exact List.pairwise_map.2 (d.pairwise_lit.imp (square_before hpos))

/-- The last pixel of the first line and the first of the last line, given as numbers. -/
theorem picture_shows_image_corners :
    let d := (Bitmap.blank.set 63 0 true).set 0 31 true
    let w : Window :=
      { machine := { Machine.fresh 0 with display := d }, scale := 3, ticksPerFrame := 10,
        error := none, closing := false, pending := false, alive := true }
    1 ≤ w.scale ∧ Bitmap.ofNumbers (d.bits.map fun p => if p then -7 else 0) = .ok d ∧
    Request.rectangle 189 0 192 3 "white" "white" ∈ w.picture.tail ∧
    ∃ image, d.image 3 = .ok image ∧
      (image.level? 2 189 = some 255 ∧ w.picture.tail.countP (Request.covers 2 189) = 1) ∧
      (image.level? 3 189 = some 0 ∧ w.picture.tail.countP (Request.covers 3 189) = 0) := by
  intro d w
  have hs : 1 ≤ w.scale := by decide
  have hfits : 2048 * w.scale * w.scale ≤ Capacity.maxBytes := by decide
  have hon : d.get 63 0 = true := by rw [Bitmap.get_set, Bitmap.get_set]; rfl
  have hoff : d.get 63 1 = false := by rw [Bitmap.get_set, Bitmap.get_set, Bitmap.get_blank]; rfl
  have hd : d.Depicted (d.bits.map fun p => if p then -7 else 0) := by
    refine .flat _ ?_ fun x y => ⟨if d.get x y then -7 else 0, ?_, ?_⟩
    · rw [List.length_map, d.length_bits]
    · rw [List.getElem?_map, d.getElem?_bits, Option.map_some]
    · cases d.get x y <;> decide
  clear_value d
  obtain ⟨⟨-, hforms⟩, -, hmade, -, hlevel, rectangles, hrect, hmem, -, hcount⟩ :=
    picture_shows_image w hs
  have hwhite := hlevel 63 0 2 189 rfl rfl
  have hblack := hlevel 63 1 3 189 rfl rfl
  rw [if_pos hon] at hwhite
  rw [if_neg (Bool.eq_false_iff.1 hoff)] at hblack
  rw [hrect]
  refine ⟨hs, hforms _ hd, (hmem _).2 ⟨63, 0, hon, rfl⟩, _, hmade hfits,
    ⟨hwhite, (hcount 2 189).trans (if_pos hwhite)⟩,
    ⟨hblack, (hcount 3 189).trans (if_neg ?_)⟩⟩
  rw [hblack]
  decide

end Window

end Chip8
