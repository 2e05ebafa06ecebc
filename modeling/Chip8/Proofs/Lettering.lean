import Chip8.Proofs.Canvas

/-!
# Bitmaps in letters

A bitmap as text is written line by line, and every pixel takes as many characters as any other. So
each pixel has its own place in the text, and the bitmap can be read back from these places alone.
Line breaks are not what keeps the lines apart: a pixel may be written with line breaks in it.
-/

namespace Chip8

/-- With one more separator at the end, every part is followed by one. -/
theorem intercalate_append_self {α : Type} (sep : List α) {xs : List (List α)} (h : xs ≠ []) :
    sep.intercalate xs ++ sep = xs.flatMap (· ++ sep) := by
  induction xs with
  | nil => exact absurd rfl h
  | cons x xs ih =>
    cases xs with
    | nil => simp
    | cons y xs => simp [← ih]

namespace Bitmap

variable {on off : String}

/-- The characters at the place of a pixel in a text where every pixel takes `n` of them. -/
def written (n : Nat) (text : String) (x : Fin width) (y : Fin height) : List Char :=
  (text.toList.drop (y.val * (width * n + 1) + x.val * n)).take n

/-- The bitmap that a text shows in which the lit pixels are written `on`. -/
def ofText (on text : String) : Bitmap where
  lines := .ofFn fun y => ⟨.ofFn fun x => written on.length text x y = on.toList⟩

theorem get_ofText (on text : String) (x : Fin width) (y : Fin height) :
    (ofText on text).get x y = decide (written on.length text x y = on.toList) := by
  simp [ofText, get, Line.get]

/-! ## Lines of text -/

theorem length_symbol (hl : on.length = off.length) (p : Bool) :
    (if p then on.toList else off.toList).length = on.length := by
  cases p <;> simp [String.length_toList, hl]

theorem Line.length_chars (hl : on.length = off.length) (l : Line) :
    (l.chars on.toList off.toList).length = width * on.length := by
  rw [chars, length_flatMap_of_length fun p _ => length_symbol hl p, Vector.length_toList,
    Nat.mul_comm]

theorem Line.getElem?_chars (hl : on.length = off.length) (l : Line) (x : Fin width) {i : Nat}
    (hi : i < on.length) :
    (l.chars on.toList off.toList)[on.length * x.val + i]? =
      (if l.get x then on.toList else off.toList)[i]? := by
  rw [chars, getElem?_flatMap_of_length (fun p _ => length_symbol hl p) x.val hi,
    getElem?_toList_get]
  rfl

/-! ## The text -/

/-- With a line break at its end, the text is made of lines that end alike. -/
theorem toList_text_append (d : Bitmap) (on off : String) :
    (d.text on off).toList ++ ['\n'] =
      d.lines.toList.flatMap fun l => l.chars on.toList off.toList ++ ['\n'] := by
  rw [text, String.toList_ofList, intercalate_append_self _ (by simp), List.flatMap_map]

theorem length_text_add_one (hl : on.length = off.length) (d : Bitmap) :
    (d.text on off).length + 1 = (width * on.length + 1) * height := by
  have h := congrArg List.length (d.toList_text_append on off)
  rw [length_flatMap_of_length (n := width * on.length + 1) fun l _ => by simp [l.length_chars hl],
    Vector.length_toList, List.length_append, String.length_toList] at h
  exact h

/-- What stands in a line of the text, the line break at its end included. -/
theorem getElem?_toList_text (hl : on.length = off.length) (d : Bitmap) (y : Fin height) {j : Nat}
    (hj : j < width * on.length + 1)
    (hlt : y.val * (width * on.length + 1) + j < (d.text on off).length) :
    (d.text on off).toList[y.val * (width * on.length + 1) + j]? =
      ((d.lines.get y).chars on.toList off.toList ++ ['\n'])[j]? := by
  have hrow : ∀ l ∈ d.lines.toList,
      (l.chars on.toList off.toList ++ ['\n']).length = width * on.length + 1 :=
    fun l _ => by simp [l.length_chars hl]
  have hlast : ((d.text on off).toList ++ ['\n'])[y.val * (width * on.length + 1) + j]? =
      (d.text on off).toList[y.val * (width * on.length + 1) + j]? :=
    List.getElem?_append_left (by rwa [String.length_toList])
  rw [← hlast, toList_text_append, Nat.mul_comm y.val, getElem?_flatMap_of_length hrow y.val hj,
    getElem?_toList_get]
  rfl

theorem written_text (hl : on.length = off.length) (d : Bitmap) (x : Fin width) (y : Fin height) :
    written on.length (d.text on off) x y = if d.get x y then on.toList else off.toList := by
  have hlen := length_symbol hl (d.get x y)
  have htext := length_text_add_one hl d
  refine List.ext_getElem? fun i => ?_
  rw [written, List.getElem?_take, List.getElem?_drop, Nat.add_assoc]
  by_cases hi : i < on.length
  · -- the pixel lies before the line break that ends its line
    have hx : x.val * on.length + i < width * on.length := by
      have := Nat.mul_le_mul_right on.length (Nat.succ_le_of_lt x.isLt)
      rw [Nat.succ_mul] at this
      omega
    have hy : y.val * (width * on.length + 1) + (x.val * on.length + i) <
        (d.text on off).length := by
      have := Nat.mul_le_mul_left (width * on.length + 1) (Nat.succ_le_of_lt y.isLt)
      rw [Nat.mul_succ, Nat.mul_comm _ y.val] at this
      omega
    rw [if_pos hi, getElem?_toList_text hl d y (by omega) hy,
      List.getElem?_append_left (by rw [Line.length_chars hl]; exact hx), Nat.mul_comm x.val,
      Line.getElem?_chars hl _ x hi]
    rfl
  · rw [if_neg hi, List.getElem?_eq_none (by omega)]

/-- The text shows the bitmap that it was made of. -/
theorem ofText_text (hne : on ≠ off) (hl : on.length = off.length) (d : Bitmap) :
    ofText on (d.text on off) = d := by
  refine ext_get fun x y => ?_
  rw [get_ofText, written_text hl]
  cases d.get x y
  · simpa [String.toList_inj] using hne.symm
  · simp

/-- A text from which the bitmap can be read back. Whatever form the bitmap comes in, and whatever
two writings of one length are chosen for lit and dark pixels, every line but the last ends in a
line break, and every pixel is found at a place that does not depend on the others. So different
bitmaps have different texts. -/
theorem text_determines_bitmap (d : Bitmap) (hne : on ≠ off) (hl : on.length = off.length) :
    let text := d.text on off
    let n := on.length
    ((ofBits d.bits).map (·.text on off) = .ok text ∧
      ∀ zs, d.Depicted zs → (ofNumbers zs).map (·.text on off) = .ok text) ∧
    (1 ≤ n ∧ text.length = 32 * 64 * n + 31) ∧
    (∀ y < 31, text.toList[y * (64 * n + 1) + 64 * n]? = some '\n') ∧
    (∀ (x : Fin width) (y : Fin height),
      (text.toList.drop (y.val * (64 * n + 1) + x.val * n)).take n =
        if d.get x y then on.toList else off.toList) ∧
    ofText on text = d ∧
    ∀ e : Bitmap, e.text on off = text → e = d := by
  intro text n
  have hlen : text.length + 1 = (64 * n + 1) * 32 := length_text_add_one hl d
  refine ⟨⟨?_, fun zs hz => ?_⟩, ⟨?_, by omega⟩, fun y hy => ?_, written_text hl d,
    ofText_text hne hl d, fun e he => ?_⟩
  · rw [ofBits_bits]
    rfl
  · rw [ofNumbers_of_depicted hz]
    rfl
  · rcases Nat.eq_zero_or_pos n with h0 | h
    · exact absurd ((String.length_eq_zero_iff.1 h0).trans
        (String.length_eq_zero_iff.1 (hl.symm.trans h0)).symm) hne
    · exact h
  · have hlt : y * (64 * n + 1) + 64 * n < text.length := by
      have := Nat.mul_le_mul_right (64 * n + 1) (show y + 1 ≤ 31 by omega)
      rw [Nat.succ_mul] at this
      omega
    let row : Fin height := ⟨y, Nat.lt_succ_of_lt hy⟩
    have hchars := (d.lines.get row).length_chars hl
    refine (getElem?_toList_text hl d row (Nat.lt_succ_self _) hlt).trans ?_
    rw [List.getElem?_append_right (Nat.le_of_eq hchars), hchars, Nat.sub_self]
    rfl
  · rw [← ofText_text hne hl d, ← ofText_text hne hl e, he]

/-- The last pixel of the first line, with a line break in the writing of every pixel. -/
theorem text_determines_bitmap_breaks :
    let d := blank.set 63 0 true
    let text := d.text "\n#" "#\n"
    ("\n#" ≠ "#\n" ∧ "\n#".length = "#\n".length) ∧ text.length = 4127 ∧
      (text.toList.drop 126).take 2 = ['\n', '#'] ∧ text.toList[128]? = some '\n' ∧
      (text.toList.drop 129).take 2 = ['#', '\n'] ∧
      ofText "\n#" text = d ∧ blank.text "\n#" "#\n" ≠ text := by
  intro d text
  have hne : "\n#" ≠ "#\n" := by decide
  have hl : "\n#".length = "#\n".length := by decide
  have hon : d.get 63 0 = true := by rw [get_set]; rfl
  have hoff : d.get 0 1 = false := by rw [get_set, get_blank]; rfl
  clear_value d
  obtain ⟨-, ⟨-, hlen⟩, hbreak, hwritten, hread, hinj⟩ := text_determines_bitmap d hne hl
  have hlast := hwritten 63 0
  have hfirst := hwritten 0 1
  rw [hon] at hlast
  rw [hoff] at hfirst
  refine ⟨⟨hne, hl⟩, hlen, hlast, hbreak 0 (by decide), hfirst, hread, fun he => ?_⟩
  rw [← hinj blank he, get_blank] at hon
  cases hon

end Bitmap

end Chip8
