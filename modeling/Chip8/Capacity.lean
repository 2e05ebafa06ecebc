/-!
# Capacity

What can be counted and held at all: counts are signed numbers of 64 bits, and the memory of the
computer around the machine is finite.
-/

namespace Chip8.Capacity

abbrev maxCount : Int := 0x7FFFFFFFFFFFFFFF

abbrev minCount : Int := -0x8000000000000000

def countable (z : Int) : Bool := minCount ≤ z && z ≤ maxCount

/-- The count that stands for `z`: counting on from the largest one leads to the least. -/
def wrap (z : Int) : Int := z.bmod 0x10000000000000000

theorem wrap_of_countable {z : Int} (h : countable z = true) : wrap z = z := by
  simp only [countable, minCount, maxCount, Bool.and_eq_true, decide_eq_true_eq] at h
  exact Int.bmod_eq_of_le (by omega) (by omega)

/-- The memory of the computer that a program runs on: more bytes are not granted at once. -/
abbrev maxBytes : Int := 0x2000000000

end Chip8.Capacity
