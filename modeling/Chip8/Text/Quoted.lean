import Chip8.Text.Hex
import Chip8.Text.Printable

/-!
# Quoted text

A value that a message cites stands in quotes: single ones, or double ones when the value holds a
single quote and no double one. The quote in use and the backslash are escaped by a backslash, tab,
line feed and carriage return have their letters, and every other unprintable character is written
by its code point in lower-case hexadecimal.
-/

namespace Chip8.Text

def quoteFor (cs : List Char) : Char :=
  if cs.contains '\'' && !cs.contains '"' then '"' else '\''

/-- A code point by its number: two, four or eight digits after the letter that says which. -/
def escapeCode (n : Nat) : List Char :=
  let digits := Nat.toDigits 16 n
  if n < 0x100 then '\\' :: 'x' :: zeroFill 2 digits
  else if n < 0x10000 then '\\' :: 'u' :: zeroFill 4 digits
  else '\\' :: 'U' :: zeroFill 8 digits

/-- What stands for the character `c` between quotes `q`. -/
def escape (q c : Char) : List Char :=
  if c = q ∨ c = '\\' then ['\\', c]
  else if c = '\t' then ['\\', 't']
  else if c = '\n' then ['\\', 'n']
  else if c = '\r' then ['\\', 'r']
  else if isPrintable c then [c]
  else escapeCode c.toNat

def quoted (s : String) : String :=
  let q := quoteFor s.toList
  String.ofList (q :: s.toList.flatMap (escape q) ++ [q])

end Chip8.Text
