import Chip8.Keyboard

/-!
# Symbols for keys

A symbol is put into lower case before it is looked up on the keyboard. Letters of other scripts
have lower-case forms too, and some of these are longer or plain letters. For the keys it makes no
difference: only one letter from elsewhere, the sign for kelvin, becomes a plain letter, and that
letter is on no key. So the symbols that stand for keys are the digits and letters of the layout
and the capitals of these letters.
-/

namespace Chip8

/-! ## Lower case -/

namespace Text

theorem lowerChar_ne_nil (c : Char) : lowerChar c ≠ [] := by
  unfold lowerChar
  split
  · simp
  · dsimp only
    split <;> simp

/-- A character has a lower-case form before that of the rest. -/
theorem lowerBehind_cons (before : List Char) (c : Char) (cs : List Char) :
    ∃ form, form ≠ [] ∧ lowerBehind before (c :: cs) = form ++ lowerBehind (c :: before) cs ∧
      (c = 'Σ' ∧ form = [lowerSigma before cs] ∨ form = lowerChar c) := by
  rw [lowerBehind]
  by_cases hc : c = 'Σ'
  · exact ⟨_, by simp, by rw [if_pos hc], .inl ⟨hc, rfl⟩⟩
  · exact ⟨_, lowerChar_ne_nil c, by rw [if_neg hc], .inr rfl⟩

theorem lowerSigma_not_ascii (before after : List Char) :
    128 ≤ (lowerSigma before after).toNat := by
  unfold lowerSigma
  split <;> decide

/-- Text does not get shorter in lower case, so what becomes one character has been one. -/
theorem lowerBehind_eq_singleton {cs : List Char} {a : Char} (h : lowerBehind [] cs = [a])
    (ha : a.toNat < 128) : ∃ c, cs = [c] ∧ lowerChar c = [a] := by
  cases cs with
  | nil => cases h
  | cons c cs =>
    obtain ⟨form, hne, hform, hc⟩ := lowerBehind_cons [] c cs
    rw [hform, List.append_eq_singleton_iff] at h
    rcases h with ⟨hnil, -⟩ | ⟨rfl, hrest⟩
    · exact absurd hnil hne
    cases cs with
    | nil =>
      rcases hc with ⟨-, hsigma⟩ | hlower
      · cases hsigma
        have := lowerSigma_not_ascii [] []
        omega
      · exact ⟨c, rfl, hlower.symm⟩
    | cons d cs =>
      obtain ⟨form, hne, hform, -⟩ := lowerBehind_cons [c] d cs
      rw [hform] at hrest
      exact absurd (List.append_eq_nil_iff.1 hrest).1 hne

theorem toNat_ofNat {n : Nat} (h : (Char.ofNat n).toNat ≠ 0) : (Char.ofNat n).toNat = n := by
  by_cases hn : n.isValidChar
  · rw [Char.ofNat, dif_pos hn]
    rfl
  · rw [Char.ofNat, dif_neg hn] at h
    exact absurd rfl h

/-- The capitals and the sign for kelvin apart, no range ends up among the characters of ASCII. -/
theorem mem_caseRanges {first last step : Nat} {shift : Int}
    (h : (first, last, step, shift) ∈ caseRanges) :
    (first, last, step, shift) = (0x41, 0x5A, 1, 32) ∨
      (first, last, step, shift) = (0x212A, 0x212A, 1, -8383) ∨ 128 ≤ first + shift :=
  have hall : ∀ r ∈ caseRanges, r = (0x41, 0x5A, 1, 32) ∨ r = (0x212A, 0x212A, 1, -8383) ∨
      128 ≤ (r.1 : Int) + r.2.2.2 := by decide +kernel
  hall _ h

/-- A character of ASCII is the lower-case form of itself, of a capital, or of the sign for
kelvin. -/
theorem lowerChar_eq_ascii {c a : Char} (h : lowerChar c = [a]) (h0 : a.toNat ≠ 0)
    (ha : a.toNat < 128) :
    c = a ∨ (65 ≤ c.toNat ∧ c.toNat ≤ 90 ∧ a.toNat = c.toNat + 32) ∨
      (c.toNat = 0x212A ∧ a.toNat = 0x6B) := by
  unfold lowerChar at h
  split at h
  · cases h
  · dsimp only at h
    split at h
    · next first last step shift hr =>
      obtain rfl := (List.cons.inj h).1
      have hin := List.find?_some hr
      simp only [Bool.and_eq_true, decide_eq_true_eq] at hin
      have hn := toNat_ofNat h0
      rw [hn] at ha ⊢
      rcases mem_caseRanges (List.mem_of_find?_eq_some hr) with hr | hr | hr
      · cases hr
        exact .inr (.inl (by omega))
      · cases hr
        exact .inr (.inr (by omega))
      · omega
    · exact .inl (List.cons.inj h).1

end Text

/-! ## The symbols -/

namespace Keyboard

def characters : List (Char × Nibble) :=
  [('1', 0x1), ('2', 0x2), ('3', 0x3), ('4', 0xC),
   ('q', 0x4), ('w', 0x5), ('e', 0x6), ('r', 0xD),
   ('a', 0x7), ('s', 0x8), ('d', 0x9), ('f', 0xE),
   ('z', 0xA), ('x', 0x0), ('c', 0xB), ('v', 0xF),
   ('Q', 0x4), ('W', 0x5), ('E', 0x6), ('R', 0xD),
   ('A', 0x7), ('S', 0x8), ('D', 0x9), ('F', 0xE),
   ('Z', 0xA), ('X', 0x0), ('C', 0xB), ('V', 0xF)]

theorem layout_eq : layout = (characters.take 16).map fun (c, key) => (String.ofList [c], key) :=
  rfl

/-- `map_key` knows all of the characters. -/
theorem key?_of_mem {c : Char} {key : Nibble} (h : (c, key) ∈ characters) :
    key? (String.ofList [c]) = some key :=
  have hall : ∀ p ∈ characters, key? (String.ofList [p.1]) = some p.2 := by decide +kernel
  hall (c, key) h

/-- What a character of the layout may be the lower-case form of. -/
theorem mem_of_take {c a : Char} {key : Nibble} (ha : (a, key) ∈ characters.take 16)
    (h : c = a ∨ (65 ≤ c.toNat ∧ c.toNat ≤ 90 ∧ a.toNat = c.toNat + 32) ∨
      (c.toNat = 0x212A ∧ a.toNat = 0x6B)) : (c, key) ∈ characters := by
  have hcapital : ∀ p ∈ characters.take 16, 97 ≤ p.1.toNat →
      (Char.ofNat (p.1.toNat - 32), p.2) ∈ characters := by decide
  have hk : ∀ p ∈ characters.take 16, p.1.toNat ≠ 0x6B := by decide
  rcases h with rfl | ⟨h0, h1, h⟩ | ⟨-, h⟩
  · exact List.mem_of_mem_take ha
  · have hmem := hcapital (a, key) ha (show 97 ≤ a.toNat by omega)
    rwa [show a.toNat - 32 = c.toNat by omega, Char.ofNat_toNat] at hmem
  · exact absurd h (hk _ ha)

/-- A symbol stands for a key just if it is one of the characters. -/
theorem key?_eq_some {symbol : String} {key : Nibble} :
    key? symbol = some key ↔ ∃ c, symbol = String.ofList [c] ∧ (c, key) ∈ characters := by
  constructor
  · intro h
    obtain ⟨l₁, l₂, hl, -⟩ := List.lookup_eq_some_iff.1 h
    have hmem : (Text.lower symbol, key) ∈ layout := by simp [hl]
    rw [layout_eq] at hmem
    obtain ⟨⟨a, k⟩, ha, heq⟩ := List.mem_map.1 hmem
    obtain ⟨hlower, rfl⟩ := Prod.mk.inj heq
    have hbounds : ∀ p ∈ characters.take 16, p.1.toNat ≠ 0 ∧ p.1.toNat < 128 := by decide
    obtain ⟨h0, h1⟩ := hbounds _ ha
    rw [Text.lower, String.ofList_inj] at hlower
    obtain ⟨c, hs, hc⟩ := Text.lowerBehind_eq_singleton hlower.symm h1
    refine ⟨c, ?_, mem_of_take ha (Text.lowerChar_eq_ascii hc h0 h1)⟩
    rw [← hs, String.ofList_toList]
  · rintro ⟨c, rfl, hc⟩
    exact key?_of_mem hc

/-- Shift makes no difference. -/
theorem key?_toUpper (c : Char) :
    key? (String.ofList [c.toUpper]) = key? (String.ofList [c]) := by
  have hsmall : ∀ i < 26, key? (String.ofList [(Char.ofNat (97 + i)).toUpper]) =
      key? (String.ofList [Char.ofNat (97 + i)]) := by decide +kernel
  by_cases hc : 97 ≤ c.toNat ∧ c.toNat ≤ 122
  · have h := hsmall (c.toNat - 97) (by omega)
    rwa [show 97 + (c.toNat - 97) = c.toNat by omega, Char.ofNat_toNat] at h
  · have hup : c.toUpper = c := dif_neg hc
    rw [hup]

end Keyboard

end Chip8
