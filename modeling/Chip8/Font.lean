import Chip8.Memory

/-!
# The font

Glyphs of the sixteen hexadecimal digits, four pixels wide and five high, one byte a row with the
pixels in its high half. They lie at the bottom of memory.
-/

namespace Chip8.Font

abbrev start : Nat := 0x000

abbrev glyphSize : Nat := 5

/-- The glyphs of the digits 0 to F, one after the other. -/
def bytes : List UInt8 :=
  [0xF0, 0x90, 0x90, 0x90, 0xF0,
   0x20, 0x60, 0x20, 0x20, 0x70,
   0xF0, 0x10, 0xF0, 0x80, 0xF0,
   0xF0, 0x10, 0xF0, 0x10, 0xF0,
   0x90, 0x90, 0xF0, 0x10, 0x10,
   0xF0, 0x80, 0xF0, 0x10, 0xF0,
   0xF0, 0x80, 0xF0, 0x90, 0xF0,
   0xF0, 0x10, 0x20, 0x40, 0x40,
   0xF0, 0x90, 0xF0, 0x90, 0xF0,
   0xF0, 0x90, 0xF0, 0x10, 0xF0,
   0xF0, 0x90, 0xF0, 0x90, 0x90,
   0xE0, 0x90, 0xE0, 0x90, 0xE0,
   0xF0, 0x80, 0x80, 0x80, 0xF0,
   0xE0, 0x90, 0x90, 0x90, 0xE0,
   0xF0, 0x80, 0xF0, 0x80, 0xF0,
   0xF0, 0x80, 0xF0, 0x80, 0x80]

theorem length_bytes : bytes.length = 16 * glyphSize := rfl

/-- Memory that holds the font and nothing else. -/
def memory : Memory := (Memory.zero.store start bytes).1

end Chip8.Font
