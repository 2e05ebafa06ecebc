import Chip8.Bitmap

/-!
# Sprites

Drawing flips each pixel as often as the sprite covers it. A sprite no higher than the bitmap covers
a pixel once at most, and then the pixels flipped are just those under its bits.
-/

namespace Chip8

namespace Bitmap

/-- The bits of a sprite byte lie side by side, around the right edge. -/
theorem Line.get_ofByte_eq_true {x : Nat} {b : UInt8} {col : Fin width} :
    (Line.ofByte x b).get col = true ↔
      ∃ c < 8, b.toNat.testBit (7 - c) = true ∧ (x + c) % 64 = col.val := by
  have hcol : col.val < 64 := col.isLt
  have hw : (col.val + (width - x % width)) % width = (col.val + (64 - x % 64)) % 64 := rfl
  rw [Line.get_ofByte, hw, Bool.and_eq_true, decide_eq_true_eq]
  constructor
  · rintro ⟨hc, hb⟩
    exact ⟨_, hc, hb, by omega⟩
  · rintro ⟨c, hc, hb, hx⟩
    have he : (col.val + (64 - x % 64)) % 64 = c := by omega
    rw [he]
    exact ⟨hc, hb⟩

theorem eq_lineOf {y : Nat} {row : Fin height} : row = lineOf y ↔ y % 32 = row.val := by
  rw [Fin.ext_iff]
  exact eq_comm

/-- How often the bytes of a sprite that is drawn from column `x` of line `y` on cover a pixel. -/
def hits (x y : Nat) (col : Fin width) (row : Fin height) : List UInt8 → Nat
  | [] => 0
  | b :: bs =>
    (if row = lineOf y ∧ (Line.ofByte x b).get col = true then 1 else 0) +
      hits x (y + 1) col row bs

variable {x y : Nat} {col : Fin width} {row : Fin height}

theorem hits_cons (b : UInt8) (bs : List UInt8) :
    hits x y col row (b :: bs) =
      (if row = lineOf y ∧ (Line.ofByte x b).get col = true then 1 else 0) +
        hits x (y + 1) col row bs := rfl

theorem decide_odd_add (a n : Nat) :
    decide ((a + n) % 2 = 1) = xor (decide (a % 2 = 1)) (decide (n % 2 = 1)) := by
  rcases Nat.mod_two_eq_zero_or_one a with ha | ha <;>
    rcases Nat.mod_two_eq_zero_or_one n with hn | hn <;> simp [Nat.add_mod, ha, hn]

/-- A pixel that is covered an even number of times is as it was. -/
theorem get_draw (d : Bitmap) (bs : List UInt8) :
    (d.draw x y bs).1.get col row =
      xor (d.get col row) (decide (hits x y col row bs % 2 = 1)) := by
  induction bs generalizing d y with
  | nil => simp [draw, hits]
  | cons b bs ih =>
    show ((d.drawByte x y b).1.draw x (y + 1) bs).1.get col row = _
    rw [ih, get_drawByte, hits_cons, decide_odd_add, Bool.xor_assoc]
    by_cases hr : row = lineOf y <;> cases (Line.ofByte x b).get col <;> simp [hr]

theorem hits_pos {bs : List UInt8} :
    0 < hits x y col row bs ↔
      ∃ r b, bs[r]? = some b ∧ row = lineOf (y + r) ∧ (Line.ofByte x b).get col = true := by
  induction bs generalizing y with
  | nil => simp [hits]
  | cons b bs ih =>
    have hsum : 0 < hits x y col row (b :: bs) ↔
        (row = lineOf y ∧ (Line.ofByte x b).get col = true) ∨ 0 < hits x (y + 1) col row bs := by
      rw [hits_cons]
      split
      · next hh => exact ⟨fun _ => .inl hh, fun _ => by omega⟩
      · next hh =>
        rw [Nat.zero_add]
        exact ⟨.inr, fun h => h.resolve_left hh⟩
    rw [hsum, ih]
    constructor
    · rintro (⟨hr, hc⟩ | ⟨r, b', hb, hr, hc⟩)
      · exact ⟨0, b, rfl, hr, hc⟩
      · exact ⟨r + 1, b', hb, by rw [hr, Nat.add_assoc, Nat.add_comm 1], hc⟩
    · rintro ⟨r, b', hb, hr, hc⟩
      cases r with
      | zero =>
        cases hb
        exact .inl ⟨hr, hc⟩
      | succ r => exact .inr ⟨r, b', hb, by rw [hr, Nat.add_assoc, Nat.add_comm 1], hc⟩

/-- Rows do not meet around the lower edge if there are no more of them than lines. -/
theorem hits_le_one {bs : List UInt8} (h : bs.length ≤ 32) : hits x y col row bs ≤ 1 := by
  induction bs generalizing y with
  | nil => exact Nat.zero_le 1
  | cons b bs ih =>
    rw [List.length_cons] at h
    have ih' := ih (y := y + 1) (by omega)
    rw [hits_cons]
    split
    · next hh =>
      -- the lines below are others as long as they do not come round
      have hn : ¬ 0 < hits x (y + 1) col row bs := by
        rw [hits_pos]
        rintro ⟨r, b', hb, hr, -⟩
        have hlt : r < bs.length := (List.getElem?_eq_some_iff.1 hb).1
        have h0 := eq_lineOf.1 hh.1
        have h1 := eq_lineOf.1 hr
        omega
      omega
    · omega

/-- A lit pixel goes out if it is covered, and any pixel if it is covered again. -/
theorem draw_hit {d : Bitmap} {bs : List UInt8} :
    (d.draw x y bs).2 = true ↔ ∃ col row,
      2 ≤ hits x y col row bs ∨ (1 ≤ hits x y col row bs ∧ d.get col row = true) := by
  induction bs generalizing d y with
  | nil => simp [draw, hits]
  | cons b bs ih =>
    have hfirst : (d.drawByte x y b).2 = true ↔ ∃ col row,
        (row = lineOf y ∧ (Line.ofByte x b).get col = true) ∧ d.get col row = true := by
      rw [drawByte_hit]
      constructor
      · rintro ⟨col, hd, hb⟩
        exact ⟨col, lineOf y, ⟨rfl, hb⟩, hd⟩
      · rintro ⟨col, row, ⟨rfl, hb⟩, hd⟩
        exact ⟨col, hd, hb⟩
    show ((d.drawByte x y b).2 || ((d.drawByte x y b).1.draw x (y + 1) bs).2) = true ↔ _
    rw [Bool.or_eq_true, hfirst, ih, ← exists_or]
    refine exists_congr fun col => ?_
    rw [← exists_or]
    refine exists_congr fun row => ?_
    -- the rows below meet the pixel as the first row has left it
    rw [get_drawByte, hits_cons]
    by_cases hc : row = lineOf y ∧ (Line.ofByte x b).get col = true
    · rw [if_pos hc, decide_eq_true hc.1, hc.2]
      cases d.get col row with
      | false =>
        -- the first row has lit the pixel, so one hit more is enough
        simp [hc]
        omega
      | true => simp [hc]
    · have hb : (decide (row = lineOf y) && (Line.ofByte x b).get col) = false := by
        simpa using hc
      rw [if_neg hc, hb, Bool.xor_false, Nat.zero_add]
      simp [hc]

/-- The rows of a sprite that cover the pixel. -/
theorem hits_eq_countP (bs : List UInt8) :
    hits x y col row bs = (List.range bs.length).countP fun r =>
      decide (row = lineOf (y + r)) && bs[r]?.any fun b => (Line.ofByte x b).get col := by
  induction bs generalizing y with
  | nil => rfl
  | cons b bs ih =>
    have hbelow : ((fun r => decide (row = lineOf (y + r)) &&
          (b :: bs)[r]?.any fun b => (Line.ofByte x b).get col) ∘ Nat.succ) =
        fun r => decide (row = lineOf (y + 1 + r)) &&
          bs[r]?.any fun b => (Line.ofByte x b).get col := by
      funext r
      simp only [Function.comp_apply, List.getElem?_cons_succ, Nat.succ_eq_add_one,
        show y + (r + 1) = y + 1 + r by omega]
    rw [hits_cons, ih, List.length_cons, List.range_succ_eq_map, List.countP_cons, List.countP_map,
      hbelow, Nat.add_comm]
    simp only [List.getElem?_cons_zero, Option.any_some, Nat.add_zero, Bool.and_eq_true,
      decide_eq_true_eq]

theorem get_draw_ne {d : Bitmap} {bs : List UInt8} (h : bs.length ≤ 32) :
    (d.draw x y bs).1.get col row ≠ d.get col row ↔
      ∃ r c b, bs[r]? = some b ∧ c < 8 ∧ b.toNat.testBit (7 - c) = true ∧
        (x + c) % 64 = col.val ∧ (y + r) % 32 = row.val := by
  have hflip : (d.draw x y bs).1.get col row ≠ d.get col row ↔ 0 < hits x y col row bs := by
    have hle : hits x y col row bs ≤ 1 := hits_le_one h
    rw [get_draw]
    rcases Nat.le_one_iff_eq_zero_or_eq_one.1 hle with h0 | h0 <;> simp [h0]
  rw [hflip, hits_pos]
  constructor
  · rintro ⟨r, b, hb, hr, hc⟩
    obtain ⟨c, hc, ht, hx⟩ := Line.get_ofByte_eq_true.1 hc
    exact ⟨r, c, b, hb, hc, ht, hx, eq_lineOf.1 hr⟩
  · rintro ⟨r, c, b, hb, hc, ht, hx, hr⟩
    exact ⟨r, b, hb, eq_lineOf.2 hr, Line.get_ofByte_eq_true.2 ⟨c, hc, ht, hx⟩⟩

end Bitmap

end Chip8
