/-!
# Reading integers

An integer is written in decimal digits of any script, with a sign in front if need be, single
underscores between digits, and blanks around it. A text of too many digits is not read.
-/

namespace Chip8.Text

/-- The zeros of the decimal digits of Unicode 14; the digits one to nine follow each. -/
def digitZeros : List Nat :=
  [0x30, 0x660, 0x6F0, 0x7C0, 0x966, 0x9E6, 0xA66, 0xAE6, 0xB66, 0xBE6, 0xC66, 0xCE6, 0xD66, 0xDE6,
  0xE50, 0xED0, 0xF20, 0x1040, 0x1090, 0x17E0, 0x1810, 0x1946, 0x19D0, 0x1A80, 0x1A90, 0x1B50,
  0x1BB0, 0x1C40, 0x1C50, 0xA620, 0xA8D0, 0xA900, 0xA9D0, 0xA9F0, 0xAA50, 0xABF0, 0xFF10, 0x104A0,
  0x10D30, 0x11066, 0x110F0, 0x11136, 0x111D0, 0x112F0, 0x11450, 0x114D0, 0x11650, 0x116C0,
  0x11730, 0x118E0, 0x11950, 0x11C50, 0x11D50, 0x11DA0, 0x16A60, 0x16AC0, 0x16B50, 0x1D7CE,
  0x1D7D8, 0x1D7E2, 0x1D7EC, 0x1D7F6, 0x1E140, 0x1E2F0, 0x1E950, 0x1FBF0]

def digitValue? (c : Char) : Option Nat :=
  (digitZeros.find? fun z => z ≤ c.toNat && c.toNat < z + 10).map (c.toNat - ·)

/-- The blanks that may stand around a number. -/
def isBlank (c : Char) : Bool :=
  let n := c.toNat
  (0x09 ≤ n && n ≤ 0x0D) || n == 0x20 || n == 0x85 || n == 0xA0 || n == 0x1680
    || (0x2000 ≤ n && n ≤ 0x200A) || n == 0x2028 || n == 0x2029 || n == 0x202F || n == 0x205F
    || n == 0x3000

def trimBlanks (cs : List Char) : List Char :=
  ((cs.dropWhile isBlank).reverse.dropWhile isBlank).reverse

/-- The values of digits, with single underscores between them. -/
def digitValues? : List Char → Option (List Nat)
  | [] => none
  | [c] => (digitValue? c).map ([·])
  | c :: '_' :: cs => do return (← digitValue? c) :: (← digitValues? cs)
  | c :: cs => do return (← digitValue? c) :: (← digitValues? cs)

/-- More digits than these are not read. -/
abbrev maxDigits : Nat := 4300

def natural? (cs : List Char) : Option Nat :=
  match digitValues? cs with
  | some ds => if maxDigits < ds.length then none else some (ds.foldl (fun n d => 10 * n + d) 0)
  | none => none

def integer? (s : String) : Option Int :=
  match trimBlanks s.toList with
  | '-' :: cs => (natural? cs).map fun n => -n
  | '+' :: cs => (natural? cs).map fun n => n
  | cs => (natural? cs).map fun n => n

/-- The text looks like a number below zero: a minus sign, then digits with at most one point among
them and one digit behind it. A line feed may follow. -/
def looksNegative (s : String) : Bool :=
  let digits (cs : List Char) := cs.all fun c => (digitValue? c).isSome
  match s.toList with
  | '-' :: cs =>
    let cs := if cs.getLast? = some '\n' then cs.dropLast else cs
    match cs.span (· ≠ '.') with
    | (whole, []) => !whole.isEmpty && digits whole
    | (whole, _ :: fraction) => digits whole && !fraction.isEmpty && digits fraction
  | _ => false

example : integer? " +1_000 " = some 1000 := by decide +kernel
example : integer? "1__0" = none := by decide +kernel
example : looksNegative "-.5" = true := by decide +kernel

end Chip8.Text
