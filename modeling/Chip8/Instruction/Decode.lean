import Chip8.Fault
import Chip8.Instruction.Basic

/-!
# Decoding

A word is decoded digit by digit: the first digit chooses the group, the last one or two digits the
operation within it. Words of no group have no instruction.
-/

namespace Chip8

namespace Op

/-- The arithmetic group `8xyN`, by its last digit. -/
def ofArithmetic? : Nat → Option Op
  | 0x0 => some loadReg
  | 0x1 => some or
  | 0x2 => some and
  | 0x3 => some xor
  | 0x4 => some addReg
  | 0x5 => some sub
  | 0x6 => some shiftRight
  | 0x7 => some subFrom
  | 0xE => some shiftLeft
  | _ => none

/-- The keypad group `ExKK`, by its last two digits. -/
def ofKeypad? : Nat → Option Op
  | 0x9E => some skipPressed
  | 0xA1 => some skipReleased
  | _ => none

/-- The group `FxKK` of timers, index register and memory, by its last two digits. -/
def ofTransfer? : Nat → Option Op
  | 0x07 => some loadDelay
  | 0x0A => some waitKey
  | 0x15 => some setDelay
  | 0x18 => some setSound
  | 0x1E => some addIndex
  | 0x29 => some loadGlyph
  | 0x33 => some storeDecimal
  | 0x55 => some storeRegs
  | 0x65 => some loadRegs
  | _ => none

/-- The group `0nnn`, of which three words are in use. -/
def ofSystem? : Nat → Option Op
  | 0x000 => some nop
  | 0x0E0 => some clear
  | 0x0EE => some ret
  | _ => none

/-- `_classify`, group by group. -/
def ofWord? (u : Nat) : Option Op :=
  match u / 0x1000 with
  | 0x0 => ofSystem? u
  | 0x1 => some jump
  | 0x2 => some call
  | 0x3 => some skipEqByte
  | 0x4 => some skipNeByte
  | 0x5 => if u % 0x10 = 0 then some skipEqReg else none
  | 0x6 => some loadByte
  | 0x7 => some addByte
  | 0x8 => ofArithmetic? (u % 0x10)
  | 0x9 => if u % 0x10 = 0 then some skipNeReg else none
  | 0xA => some loadIndex
  | 0xB => some jumpOffset
  | 0xC => some random
  | 0xD => some draw
  | 0xE => ofKeypad? (u % 0x100)
  | 0xF => ofTransfer? (u % 0x100)
  | _ => none

end Op

/-- The digit of `u` that counts units of `unit`. -/
def digit (u unit : Nat) : Nibble := .ofNat 16 (u / unit)

/-- The instruction with the operation `op` and the operands that stand in the word `u`. -/
def Instruction.ofWord (op : Op) (u : Nat) : Instruction where
  op := op
  word := u
  x := digit u 0x100
  y := digit u 0x10
  n := (u % 0x10 : Nat)
  kk := (u % 0x100 : Nat)
  nnn := (u % 0x1000 : Nat)

/-- `decode` looks at the last four hexadecimal digits of a number only. -/
def decode (word : Int) : Except Fault Instruction :=
  let u := (word % 0x10000).toNat
  match Op.ofWord? u with
  | some op => .ok (.ofWord op u)
  | none => .error (.unknownInstruction u none)

end Chip8
