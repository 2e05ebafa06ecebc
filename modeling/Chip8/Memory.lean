/-!
# Memory

4096 byte cells. A transfer between memory and the rest of the machine goes from cell to cell; where
it meets an address outside memory it stops, keeps what it has done, and gives that address.
-/

namespace Chip8

abbrev memorySize : Nat := 4096

/-- Where programs are loaded and execution starts. -/
abbrev programStart : Nat := 0x200

abbrev maxProgramSize : Nat := memorySize - programStart

abbrev Memory := Vector UInt8 memorySize

namespace Memory

def zero : Memory := .replicate memorySize 0

/-- The cell at an address, if the address lies in memory. -/
def cell? (a : Int) : Option (Fin memorySize) :=
  if h : 0 ≤ a ∧ a.toNat < memorySize then some ⟨a.toNat, h.2⟩ else none

theorem cell?_eq_none {a : Int} : cell? a = none ↔ a < 0 ∨ 4096 ≤ a := by
  unfold cell? memorySize
  split <;> simp <;> omega

theorem cell?_eq_some {a : Int} {k : Fin memorySize} : cell? a = some k ↔ a = (k.val : Int) := by
  have := k.isLt
  unfold cell?
  split <;> simp [Fin.ext_iff] <;> omega

def read? (m : Memory) (a : Int) : Option UInt8 := (cell? a).map (m[·])

def write (m : Memory) (k : Fin memorySize) (b : UInt8) : Memory := m.set k b

theorem read?_eq_none {m : Memory} {a : Int} : m.read? a = none ↔ a < 0 ∨ 4096 ≤ a := by
  rw [read?, Option.map_eq_none_iff, cell?_eq_none]

theorem read?_write (m : Memory) (k : Fin memorySize) (b : UInt8) (c : Int) :
    (m.write k b).read? c = if c = (k.val : Int) then some b else m.read? c := by
  unfold read? write
  cases h : cell? c with
  | none =>
    have hk : k.val < 4096 := k.isLt
    have hc := cell?_eq_none.1 h
    rw [if_neg (by omega)]
    rfl
  | some j =>
    rw [cell?_eq_some.1 h]
    by_cases hj : j = k
    · simp [hj]
    · have hv : k.val ≠ j.val := fun e => hj (Fin.ext e.symm)
      rw [if_neg (by omega)]
      simp [hv]

/-- What `_fetch` reads: the big-endian word at `a`. -/
def word? (m : Memory) (a : Int) : Option Nat :=
  match m.read? a, m.read? (a + 1) with
  | some high, some low => some (0x100 * high.toNat + low.toNat)
  | _, _ => none

/-! ## Transfers -/

/-- Bytes go to the cells from `a` on, each by `_write`, which refuses an address outside memory. -/
def store (m : Memory) (a : Int) : List UInt8 → Memory × Option Int
  | [] => (m, none)
  | b :: bs =>
    match cell? a with
    | none => (m, some a)
    | some k => store (m.write k b) (a + 1) bs

/-- The `n` cells from `a` on, each read by `_read`, which refuses an address outside memory. -/
def load (m : Memory) (a : Int) : Nat → List UInt8 × Option Int
  | 0 => ([], none)
  | n + 1 =>
    match cell? a with
    | none => ([], some a)
    | some k =>
      let (bs, stop) := load m (a + 1) n
      (m[k] :: bs, stop)

/-- Where a transfer of `n` cells from `a` on stops: at the first of them outside memory. -/
def stop (a : Int) (n : Nat) : Option Int :=
  if n = 0 ∨ (0 ≤ a ∧ a + n ≤ 4096) then none else some (if a < 0 then a else max a 4096)

theorem stop_of_cell?_eq_none {a : Int} (h : cell? a = none) (n : Nat) :
    stop a (n + 1) = some a := by
  have ha := cell?_eq_none.1 h
  unfold stop
  rw [if_neg (by omega), Option.some_inj]
  split
  · rfl
  · omega

theorem stop_succ {a : Int} {k : Fin memorySize} (h : cell? a = some k) (n : Nat) :
    stop a (n + 1) = stop (a + 1) n := by
  have hk : k.val < 4096 := k.isLt
  have ha := cell?_eq_some.1 h
  unfold stop
  split <;> split <;> simp <;> omega

theorem store_stop (m : Memory) (a : Int) (bs : List UInt8) :
    (m.store a bs).2 = stop a bs.length := by
  induction bs generalizing m a with
  | nil => simp [store, stop]
  | cons b bs ih =>
    rw [store, List.length_cons]
    cases h : cell? a with
    | none => exact (stop_of_cell?_eq_none h _).symm
    | some k => exact (ih _ _).trans (stop_succ h _).symm

theorem load_stop (m : Memory) (a : Int) (n : Nat) : (m.load a n).2 = stop a n := by
  induction n generalizing a with
  | zero => simp [load, stop]
  | succ n ih =>
    rw [load]
    cases h : cell? a with
    | none => exact (stop_of_cell?_eq_none h _).symm
    | some k => exact (ih _).trans (stop_succ h _).symm

/-- A store reaches the cells in memory from `a` on, and no other. -/
theorem read?_store (m : Memory) {a : Int} (ha : 0 ≤ a) (bs : List UInt8) (c : Int) :
    (m.store a bs).1.read? c =
      if a ≤ c ∧ c < a + bs.length ∧ c < 4096 then bs[(c - a).toNat]? else m.read? c := by
  induction bs generalizing m a with
  | nil => rw [store, List.length_nil, if_neg (by omega)]
  | cons b bs ih =>
    rw [store]
    cases h : cell? a with
    | none =>
      have hn := cell?_eq_none.1 h
      rw [if_neg (by omega)]
    | some k =>
      have hk : k.val < 4096 := k.isLt
      have hs := cell?_eq_some.1 h
      simp only [ih _ (show 0 ≤ a + 1 by omega), read?_write, List.length_cons]
      by_cases hc : c = a
      · rw [if_neg (by omega), if_pos (by omega), if_pos (by omega), hc]
        simp
      · rw [if_neg (c := c = (k.val : Int)) (by omega)]
        by_cases hr : a + 1 ≤ c ∧ c < a + 1 + bs.length ∧ c < 4096
        · rw [if_pos hr, if_pos (by omega), show (c - a).toNat = (c - (a + 1)).toNat + 1 by omega,
            List.getElem?_cons_succ]
        · rw [if_neg hr, if_neg (by omega)]

/-- A load reads the cells in memory from `a` on. -/
theorem getElem?_load (m : Memory) {a : Int} (ha : 0 ≤ a) (n i : Nat) :
    (m.load a n).1[i]? = if i < n then m.read? (a + i) else none := by
  induction n generalizing a i with
  | zero => simp [load]
  | succ n ih =>
    rw [load]
    cases h : cell? a with
    | none =>
      have hn := cell?_eq_none.1 h
      have hr : m.read? (a + i) = none := read?_eq_none.2 (by omega)
      simp [hr]
    | some k =>
      cases i with
      | zero => simp [read?, h]
      | succ i =>
        have hi : a + 1 + (i : Int) = a + ((i + 1 : Nat) : Int) := by omega
        simp [ih (show 0 ≤ a + 1 by omega), hi]

end Memory

end Chip8
