/-!
# Hexadecimal text

Numbers in messages are written in upper-case hexadecimal, filled with zeros on the left up to a
least width. A minus sign stands before the zeros and counts in the width; a number that needs more
digits than the width has is written in full.
-/

namespace Chip8.Text

/-- The digits of `n` in base 16, most significant first. -/
def hexDigits (n : Nat) : List Char := (Nat.toDigits 16 n).map Char.toUpper

def zeroFill (width : Nat) (cs : List Char) : List Char :=
  List.replicate (width - cs.length) '0' ++ cs

theorem length_zeroFill (width : Nat) (cs : List Char) :
    (zeroFill width cs).length = max width cs.length := by
  simp only [zeroFill, List.length_append, List.length_replicate]
  omega

/-- `z` in hexadecimal, at least `width` characters long, the sign included. -/
def hex (width : Nat) (z : Int) : String :=
  match z with
  | .ofNat n => String.ofList (zeroFill width (hexDigits n))
  | .negSucc n => String.ofList ('-' :: zeroFill (width - 1) (hexDigits (n + 1)))

example : hex 3 0x2A = "02A" := by decide +kernel
example : hex 3 (-2) = "-02" := by decide +kernel
example : hex 1 0x1000 = "1000" := by decide +kernel

end Chip8.Text
