/-!
# Sizes of memory

A number of bytes is told in the largest binary unit that it fills, with three significant digits,
and more where the whole part has more.
-/

namespace Chip8.Text

/-- The quotient of `n` by `d`, rounded to the nearest whole number and in the middle to the even
one. -/
def roundedQuotient (n d : Nat) : Nat :=
  let q := n / d
  let r := n % d
  if 2 * r < d then q
  else if d < 2 * r then q + 1
  else q + q % 2

/-- `n` with a decimal point in front of its last `places` digits. -/
def withPoint (places n : Nat) : List Char :=
  let digits := Nat.toDigits 10 n
  let padded := List.replicate (places + 1 - digits.length) '0' ++ digits
  let whole := padded.length - places
  padded.take whole ++ '.' :: padded.drop whole

/-- The quotient of `n` by `d` in three significant digits, or as a whole number if that has
more. -/
def threeDigits (n d : Nat) : List Char :=
  if roundedQuotient (100 * n) d < 1000 then withPoint 2 (roundedQuotient (100 * n) d)
  else if roundedQuotient (10 * n) d < 1000 then withPoint 1 (roundedQuotient (10 * n) d)
  else withPoint 0 (roundedQuotient n d)

/-- `n` bytes in units of `d` bytes or larger ones, each 1024 times the one before. -/
def inUnits (n d : Nat) : List String → String
  | [] => ""
  | unit :: units =>
    if units.isEmpty || roundedQuotient n d < 1024 then
      String.ofList (threeDigits n d) ++ " " ++ unit
    else inUnits n (1024 * d) units

/-- The size of at least a kibibyte. -/
def byteSize (n : Nat) : String := inUnits n 1024 ["KiB", "MiB", "GiB", "TiB", "PiB", "EiB"]

example : byteSize 2048000000000 = "1.86 TiB" := by decide +kernel
example : byteSize 204800000000 = "191. GiB" := by decide +kernel
example : byteSize 1099000000000 = "1.00 TiB" := by decide +kernel

end Chip8.Text
