import Chip8.Nibble
import Chip8.Text.LowerCase

/-!
# The keyboard

The keypad of the machine laid on a keyboard: four rows of four keys.

    1 2 3 C        1 2 3 4
    4 5 6 D   on   Q W E R
    7 8 9 E        A S D F
    A 0 B F        Z X C V
-/

namespace Chip8.Keyboard

/-- The keys that the keyboard's symbols stand for. -/
def layout : List (String × Nibble) :=
  [("1", 0x1), ("2", 0x2), ("3", 0x3), ("4", 0xC),
   ("q", 0x4), ("w", 0x5), ("e", 0x6), ("r", 0xD),
   ("a", 0x7), ("s", 0x8), ("d", 0x9), ("f", 0xE),
   ("z", 0xA), ("x", 0x0), ("c", 0xB), ("v", 0xF)]

/-- Every key of the machine has its place. -/
theorem exists_mem_layout (key : Nibble) : ∃ symbol, (symbol, key) ∈ layout := by
  revert key
  simp [layout, Fin.forall_fin_succ]

/-- `map_key`: the key for a symbol, in lower case or upper case. -/
def key? (symbol : String) : Option Nibble := layout.lookup (Text.lower symbol)

end Chip8.Keyboard
