/-!
# Nibbles

Half a byte, one hexadecimal digit. A nibble names a register, a key or a stack slot, each of which
the machine has in a bank of sixteen.
-/

namespace Chip8

abbrev Nibble := Fin 16

namespace Nibble

/-- Numerals stand for nibbles. -/
instance neZero : @NeZero Nat Zero.ofOfNat0 16 := ⟨Nat.succ_ne_zero 15⟩

def ofInt? (z : Int) : Option Nibble :=
  if h : 0 ≤ z ∧ z.toNat < 16 then some ⟨z.toNat, h.2⟩ else none

theorem ofInt?_eq_none {z : Int} : ofInt? z = none ↔ z < 0 ∨ 16 ≤ z := by
  unfold ofInt?
  split <;> simp <;> omega

theorem ofInt?_eq_some {z : Int} {k : Nibble} : ofInt? z = some k ↔ z = (k.val : Int) := by
  have := k.isLt
  unfold ofInt?
  split <;> simp [Fin.ext_iff] <;> omega

theorem ofInt?_natCast (k : Nibble) : ofInt? (k.val : Int) = some k := ofInt?_eq_some.2 rfl

end Nibble

/-- Sixteen cells, named by nibbles. -/
abbrev Bank (α : Type) := Vector α 16

namespace Bank

variable {α : Type}

def read (b : Bank α) (k : Nibble) : α := b[k]

def write (b : Bank α) (k : Nibble) (a : α) : Bank α := b.set k a

theorem read_write (b : Bank α) (j k : Nibble) (a : α) :
    (b.write j a).read k = if j = k then a else b.read k := by
  simp [read, write, Vector.getElem_set, Fin.ext_iff]

theorem read_replicate (a : α) (k : Nibble) : read (.replicate 16 a) k = a := by
  simp [read]

theorem getElem?_toList (b : Bank α) (k : Nibble) : b.toList[k.val]? = some (b.read k) := by
  simp [read]

theorem ext {b c : Bank α} (h : ∀ k, b.read k = c.read k) : b = c :=
  Vector.ext fun i hi => h ⟨i, hi⟩

/-- The bank with the list in its first cells. -/
def overwrite (b : Bank α) (as : List α) : Bank α := .ofFn fun k => as.getD k (b.read k)

theorem read_overwrite (b : Bank α) (as : List α) (k : Nibble) :
    (b.overwrite as).read k = as.getD k (b.read k) := by
  simp [read, overwrite]

end Bank

end Chip8
