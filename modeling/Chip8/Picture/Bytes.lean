/-!
# Bytes of picture files

Numbers of a fixed number of bytes, in either order, and texts.
-/

namespace Chip8.Picture

/-- `n` in so many bytes, least significant first. -/
def littleEndian : Nat → Nat → List UInt8
  | 0, _ => []
  | count + 1, n => UInt8.ofNat n :: littleEndian count (n / 256)

theorem length_littleEndian (count n : Nat) : (littleEndian count n).length = count := by
  induction count generalizing n with
  | zero => rfl
  | succ count ih => rw [littleEndian, List.length_cons, ih]

def bigEndian (count n : Nat) : List UInt8 := (littleEndian count n).reverse

theorem length_bigEndian (count n : Nat) : (bigEndian count n).length = count := by
  rw [bigEndian, List.length_reverse, length_littleEndian]

def unused (count : Nat) : List UInt8 := .replicate count 0

def text (s : String) : List UInt8 := s.toUTF8.toList

/-- Bytes with as many zeros behind them as a multiple of `unit` takes. -/
def padded (unit : Nat) (bs : List UInt8) : List UInt8 :=
  bs ++ unused ((unit - bs.length % unit) % unit)

def pieces (size : Nat) (bs : List UInt8) : List (List UInt8) :=
  if _ : 0 < size ∧ size < bs.length then bs.take size :: pieces size (bs.drop size)
  else [bs]
termination_by bs.length
decreasing_by simp only [List.length_drop]; omega

theorem flatten_pieces (size : Nat) (bs : List UInt8) : (pieces size bs).flatten = bs := by
  fun_induction pieces size bs with
  | case1 bs _ ih => rw [List.flatten_cons, ih, List.take_append_drop]
  | case2 bs _ => simp

end Chip8.Picture
