import Chip8.Machine.Program
import Chip8.Proofs.Transfers

/-!
# Loading programs

A program may be given as bytes, as a list of numbers or as a grid of numbers. What loading it comes
to depends on nothing but the numbers in their order: a number that is no byte is refused, then a
program that is too long, both without a trace, and what is loaded lies in memory byte by byte. A
second program lies on top of the first, as the two would if they had been loaded as one.
-/

namespace Chip8

namespace Memory

theorem ext_read? {m n : Memory} (h : ∀ a, m.read? a = n.read? a) : m = n := by
  refine Vector.ext fun i hi => ?_
  have hc : cell? (i : Nat) = some ⟨i, hi⟩ := cell?_eq_some.2 rfl
  have hi' := h i
  rw [read?, read?, hc] at hi'
  exact Option.some_inj.1 hi'

/-- Bytes written over others hide as many of them. -/
theorem store_store (m : Memory) {a : Int} (ha : 0 ≤ a) (as bs : List UInt8) :
    ((m.store a as).1.store a bs).1 = (m.store a (bs ++ as.drop bs.length)).1 := by
  apply ext_read?
  intro c
  simp only [read?_store _ ha, List.length_append, List.length_drop]
  by_cases hb : a ≤ c ∧ c < a + bs.length ∧ c < 4096
  · rw [if_pos hb, if_pos (by omega), List.getElem?_append_left (by omega)]
  · rw [if_neg hb]
    by_cases hs : a ≤ c ∧ c < a + as.length ∧ c < 4096
    · rw [if_pos hs, if_pos (by omega), List.getElem?_append_right (by omega),
        List.getElem?_drop]
      congr 1
      omega
    · rw [if_neg hs, if_neg (by omega)]

end Memory

namespace Program

/-- The program gives these numbers. -/
inductive Lists : Program → List Int → Prop
  | numbers (zs : List Int) : Lists (.numbers zs) zs
  | bytes (bs : List UInt8) : Lists (.bytes bs) (bs.map fun b => (b.toNat : Int))
  | grid (g : Grid Int) : Lists (.grid g) g.toList

variable {p : Program} {zs : List Int}

/-! ## Numbers and bytes -/

theorem toNat_ofInt {z : Int} (h0 : 0 ≤ z) (h : z ≤ 0xFF) : ((UInt8.ofInt z).toNat : Int) = z := by
  rw [UInt8.ofInt, UInt8.toNat_ofNat']
  omega

theorem ofInt_toNat (b : UInt8) : UInt8.ofInt b.toNat = b := by
  have hb := b.toNat_lt
  have h := toNat_ofInt (z := b.toNat) (by omega) (by omega)
  exact UInt8.toNat_inj.1 (Int.ofNat_inj.1 h)

theorem byte_of_mem_map_toNat {bs : List UInt8} :
    ∀ z ∈ bs.map fun b => (b.toNat : Int), 0 ≤ z ∧ z ≤ 0xFF := by
  intro z hz
  obtain ⟨b, -, rfl⟩ := List.mem_map.1 hz
  have := b.toNat_lt
  omega

theorem byte?_of_byte {z : Int} (h : 0 ≤ z ∧ z ≤ 0xFF) : byte? z = some (.ofInt z) := if_pos h

theorem byte?_of_not_byte {z : Int} (h : ¬ (0 ≤ z ∧ z ≤ 0xFF)) : byte? z = none := if_neg h

theorem mapM_byte? (h : ∀ z ∈ zs, 0 ≤ z ∧ z ≤ 0xFF) :
    (zs.map byte?).mapM id = some (zs.map UInt8.ofInt) := by
  induction zs with
  | nil => rfl
  | cons z zs ih =>
    have hz := byte?_of_byte (h z List.mem_cons_self)
    have hzs := ih fun y hy => h y (List.mem_cons_of_mem z hy)
    simp [List.mapM_cons, hz, hzs]

theorem mapM_byte?_eq_none (h : ∃ z ∈ zs, ¬ (0 ≤ z ∧ z ≤ 0xFF)) :
    (zs.map byte?).mapM id = none := by
  induction zs with
  | nil =>
    obtain ⟨z, hz, -⟩ := h
    cases hz
  | cons y zs ih =>
    obtain ⟨z, hz, hn⟩ := h
    rcases List.mem_cons.1 hz with rfl | hz
    · simp [List.mapM_cons, byte?_of_not_byte hn]
    · simp [List.mapM_cons, ih ⟨z, hz, hn⟩]

/-! ## Arrays -/

/-- Where the chosen one of two has a property just if either of them has it, the one chosen of a
list has it just if some element does. -/
theorem foldl_iff_exists {α : Type} {P : α → Prop} {choose : α → α → α}
    (h : ∀ x y, P (choose x y) ↔ P x ∨ P y) (x : α) (xs : List α) :
    P (xs.foldl choose x) ↔ ∃ z ∈ x :: xs, P z := by
  induction xs generalizing x with
  | nil => simp
  | cons y ys ih =>
    simp only [List.foldl_cons, ih, h, List.mem_cons, or_and_right, exists_or, exists_eq_left,
      or_assoc]

/-- The two ends of an array are within the bounds just if all of it is, and narrowing then keeps
every number: an array comes to the same bytes as its numbers one by one. -/
theorem arrayBytes_integers (xs : List Int) :
    arrayBytes integers xs = collect (xs.map byte?) := by
  cases xs with
  | nil => rfl
  | cons x rest =>
    have hleast : rest.foldl min x < 0 ↔ ∃ z ∈ x :: rest, z < 0 :=
      foldl_iff_exists (P := (· < 0)) (fun a b => by omega) x rest
    have hmost : 0xFF < rest.foldl max x ↔ ∃ z ∈ x :: rest, 0xFF < z :=
      foldl_iff_exists (P := (0xFF < ·)) (fun a b => by omega) x rest
    have hout : (integers.isNegative (rest.foldl integers.least x) ||
        integers.isLarge (rest.foldl integers.most x)) = true ↔
          ∃ z ∈ x :: rest, ¬ (0 ≤ z ∧ z ≤ 0xFF) := by
      simp only [integers, Bool.or_eq_true, decide_eq_true_eq, hleast, hmost]
      constructor
      · rintro (⟨z, hz, h⟩ | ⟨z, hz, h⟩)
        · exact ⟨z, hz, by omega⟩
        · exact ⟨z, hz, by omega⟩
      · rintro ⟨z, hz, h⟩
        rcases Int.lt_or_le z 0 with hneg | hpos
        · exact .inl ⟨z, hz, hneg⟩
        · exact .inr ⟨z, hz, by omega⟩
    rw [arrayBytes]
    by_cases h : ∃ z ∈ x :: rest, ¬ (0 ≤ z ∧ z ≤ 0xFF)
    · rw [if_pos (hout.2 h), collect, mapM_byte?_eq_none h]
    · have hall : ∀ z ∈ x :: rest, 0 ≤ z ∧ z ≤ 0xFF := by simpa using h
      rw [if_neg (mt hout.1 h), collect, mapM_byte? hall]
      rfl

namespace Lists

/-- Whatever form a program has, its bytes are those of its numbers one by one. -/
theorem content_eq (h : p.Lists zs) : p.content = collect (zs.map byte?) := by
  cases h with
  | numbers => rfl
  | grid g => exact arrayBytes_integers g.toList
  | bytes bs =>
    have hs : (bs.map fun b => (b.toNat : Int)).map UInt8.ofInt = bs := by
      simp [List.map_map, Function.comp_def, ofInt_toNat]
    rw [content, collect, mapM_byte? byte_of_mem_map_toNat, hs]

theorem content_of_bytes (h : p.Lists zs) (hz : ∀ z ∈ zs, 0 ≤ z ∧ z ≤ 0xFF) :
    p.content = .ok (zs.map UInt8.ofInt) := by
  rw [h.content_eq, collect, mapM_byte? hz]

theorem content_of_not_bytes (h : p.Lists zs) (hz : ∃ z ∈ zs, ¬ (0 ≤ z ∧ z ≤ 0xFF)) :
    p.content = .error .byteRange := by
  rw [h.content_eq, collect, mapM_byte?_eq_none hz]

end Lists

end Program

namespace Machine

open Program (Lists)

variable {m : Machine} {p q : Program} {zs ys : List Int}

/-! ## The three ends of a load -/

theorem load_of_not_bytes (h : p.Lists zs) (hz : ∃ z ∈ zs, ¬ (0 ≤ z ∧ z ≤ 0xFF)) :
    m.load p = .fail m .byteRange := by
  rw [load, h.content_of_not_bytes hz]

theorem load_of_too_long (h : p.Lists zs) (hz : ∀ z ∈ zs, 0 ≤ z ∧ z ≤ 0xFF)
    (hl : 3584 < zs.length) : m.load p = .fail m (.fault (.romTooLarge zs.length 3584)) := by
  rw [load, h.content_of_bytes hz]
  simp only [List.length_map]
  exact if_pos hl

theorem load_of_fits (h : p.Lists zs) (hz : ∀ z ∈ zs, 0 ≤ z ∧ z ≤ 0xFF) (hl : zs.length ≤ 3584) :
    m.load p =
      { machine := { m with memory := (m.memory.store programStart (zs.map UInt8.ofInt)).1 }
        log := [.loaded zs.length] } := by
  rw [load, h.content_of_bytes hz]
  simp only [List.length_map]
  exact if_neg (Nat.not_lt.2 hl)

/-- A load succeeds with bytes that fit, and only then. -/
theorem error_load_eq_none (h : p.Lists zs) :
    (m.load p).error = none ↔ (∀ z ∈ zs, 0 ≤ z ∧ z ≤ 0xFF) ∧ zs.length ≤ 3584 := by
  constructor
  · intro he
    by_cases hz : ∀ z ∈ zs, 0 ≤ z ∧ z ≤ 0xFF
    · refine ⟨hz, Nat.not_lt.1 fun hl => ?_⟩
      rw [load_of_too_long h hz hl] at he
      cases he
    · have hn : ∃ z ∈ zs, ¬ (0 ≤ z ∧ z ≤ 0xFF) := by simpa using hz
      rw [load_of_not_bytes h hn] at he
      cases he
  · rintro ⟨hz, hl⟩
    rw [load_of_fits h hz hl]

theorem load_congr (hp : p.Lists zs) (hq : q.Lists zs) (m : Machine) : m.load p = m.load q := by
  rw [load, load, hp.content_eq, hq.content_eq]

/-! ## One program over another -/

/-- Two loads are one load of the second program with what the first has beyond it. -/
theorem load_load {r : Program} (hp : p.Lists zs) (hq : q.Lists ys)
    (hr : r.Lists (ys ++ zs.drop ys.length)) (hpe : (m.load p).error = none)
    (hqe : (m.load q).error = none) :
    (m.load r).error = none ∧ ((m.load p).machine.load q).machine = (m.load r).machine := by
  obtain ⟨hpz, hpl⟩ := (error_load_eq_none hp).1 hpe
  obtain ⟨hqz, hql⟩ := (error_load_eq_none hq).1 hqe
  have hrz : ∀ z ∈ ys ++ zs.drop ys.length, 0 ≤ z ∧ z ≤ 0xFF := by
    intro z hz
    rcases List.mem_append.1 hz with hz | hz
    · exact hqz z hz
    · exact hpz z (List.mem_of_mem_drop hz)
  have hrl : (ys ++ zs.drop ys.length).length ≤ 3584 := by
    rw [List.length_append, List.length_drop]
    omega
  refine ⟨(error_load_eq_none hr).2 ⟨hrz, hrl⟩, ?_⟩
  rw [load_of_fits hp hpz hpl, load_of_fits hq hqz hql, load_of_fits hr hrz hrl]
  have hs := m.memory.store_store (a := programStart) (by decide) (zs.map UInt8.ofInt)
    (ys.map UInt8.ofInt)
  rw [List.length_map] at hs
  simp only [hs, List.map_append, List.map_drop]

/-- Loading is all or nothing, puts every byte in its place and does not care for the form that the
program has: numbers that are no bytes are refused before the length is looked at, and a refusal
leaves the machine as it was. -/
theorem load_exact (h : p.Lists zs) (m : Machine) :
    ((∃ z ∈ zs, ¬ (0 ≤ z ∧ z ≤ 0xFF)) → m.load p = .fail m .byteRange) ∧
    ((∀ z ∈ zs, 0 ≤ z ∧ z ≤ 0xFF) → 3584 < zs.length →
      m.load p = .fail m (.fault (.romTooLarge zs.length 3584))) ∧
    ((∀ z ∈ zs, 0 ≤ z ∧ z ≤ 0xFF) → zs.length ≤ 3584 → ∃ memory,
      m.load p = { machine := { m with memory }, log := [.loaded zs.length] } ∧
      (∀ (i : Nat) (hi : i < zs.length),
        ∃ b, memory.read? (0x200 + i) = some b ∧ (b.toNat : Int) = zs[i]) ∧
      ∀ a : Int, a < 0x200 ∨ 0x200 + zs.length ≤ a → memory.read? a = m.memory.read? a) ∧
    (∀ q, q.Lists zs → m.load q = m.load p) ∧
    ∀ q r ys, q.Lists ys → r.Lists (ys ++ zs.drop ys.length) →
      (m.load p).error = none → (m.load q).error = none →
        (m.load r).error = none ∧
          ((m.load p).machine.load q).machine = (m.load r).machine := by
  refine ⟨load_of_not_bytes h, load_of_too_long h, fun hz hl => ?_,
    fun q hq => load_congr hq h m, fun q r ys hq hr => load_load h hq hr⟩
  obtain ⟨hput, hkeep⟩ := m.memory.overlaid_store (a := programStart) (by decide)
    (zs.map UInt8.ofInt)
  refine ⟨_, load_of_fits h hz hl, fun i hi => ⟨.ofInt zs[i], ?_, ?_⟩, fun a ha => ?_⟩
  · refine hput i _ ?_ ?_
    · rw [List.getElem?_map, List.getElem?_eq_getElem hi]
      rfl
    · show (0x200 : Int) + i < 4096
      omega
  · have hb := hz zs[i] (List.getElem_mem hi)
    exact Program.toNat_ofInt hb.1 hb.2
  · refine hkeep a fun i hi => ?_
    rw [List.length_map] at hi
    show a ≠ 0x200 + (i : Int)
    omega

/-- A list that is too long and has a number that is no byte, one that is only too long, an array of
two rows that is as good as its bytes, one with a number out of range at either end, one without
numbers, and a shorter program over another. -/
theorem load_exact_forms :
    let m := fresh 3
    let long : List UInt8 := .replicate 3585 7
    let g : Grid Int := .rows [.rows [.cell 0x60, .cell 5], .rows [.cell 0x12, .cell 2]]
    let low : Grid Int := .rows [.rows [.cell 0x60, .cell 5], .rows [.cell 0x12, .cell (-1)]]
    let high : Grid Int := .rows [.rows [.cell 256, .cell 5], .rows [.cell 0x12, .cell 2]]
    let empty : Grid Int := .rows [.rows [], .rows []]
    m.load (.numbers (300 :: .replicate 3585 0)) = .fail m .byteRange ∧
    m.load (.bytes long) = .fail m (.fault (.romTooLarge 3585 3584)) ∧
    (∃ b, (m.load (.grid g)).machine.memory.read? 0x202 = some b ∧ b = 0x12) ∧
    m.load (.bytes [0x60, 5, 0x12, 2]) = m.load (.grid g) ∧
    (m.load (.grid low) = .fail m .byteRange ∧ m.load (.grid high) = .fail m .byteRange) ∧
    m.load (.bytes []) = m.load (.grid empty) ∧
    ((m.load (.grid g)).machine.load (.bytes [0x61])).machine =
      (m.load (.numbers [0x61, 5, 0x12, 2])).machine := by
  intro m long g low high empty
  have hg : Program.Lists (.grid g) [0x60, 5, 0x12, 2] := .grid g
  have hlow : Program.Lists (.grid low) [0x60, 5, 0x12, -1] := .grid low
  have hhigh : Program.Lists (.grid high) [256, 5, 0x12, 2] := .grid high
  have hempty : Program.Lists (.grid empty) [] := .grid empty
  have hlong : Program.Lists (.bytes long) (long.map fun b => (b.toNat : Int)) := .bytes long
  refine ⟨(load_exact (.numbers _) m).1 ⟨300, List.mem_cons_self, by decide⟩, ?_, ?_,
    (load_exact hg m).2.2.2.1 _ (.bytes [0x60, 5, 0x12, 2]), ⟨?_, ?_⟩,
    (load_exact hempty m).2.2.2.1 _ (.bytes []), ?_⟩
  · have hlen : (long.map fun b => (b.toNat : Int)).length = 3585 := by
      rw [List.length_map, List.length_replicate]
    have h := (load_exact hlong m).2.1 Program.byte_of_mem_map_toNat (by omega)
    rwa [hlen] at h
  · obtain ⟨memory, hl, hput, -⟩ := (load_exact hg m).2.2.1 (by decide) (by decide)
    obtain ⟨b, hb, hv⟩ := hput 2 (by decide)
    rw [hl]
    exact ⟨b, hb, UInt8.toNat_inj.1 (Int.ofNat_inj.1 hv)⟩
  · exact (load_exact hlow m).1 ⟨-1, by decide, by decide⟩
  · exact (load_exact hhigh m).1 ⟨256, by decide, by decide⟩
  · have hq : Program.Lists (.bytes [0x61]) [0x61] := .bytes [0x61]
    exact ((load_exact hg m).2.2.2.2 _ _ _ hq (.numbers [0x61, 5, 0x12, 2])
      ((error_load_eq_none hg).2 ⟨by decide, by decide⟩)
      ((error_load_eq_none hq).2 ⟨by decide, by decide⟩)).2

end Machine

end Chip8
