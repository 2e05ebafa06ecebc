import Chip8.Instruction.Basic

/-!
# Instruction formats

The opcode table: for every operation the digits of its word that are fixed and the operands that
the other digits hold. `Format.Matches` reads the table, `Instruction.assemble` writes by it.
-/

namespace Chip8

/-- A layout of the four hexadecimal digits of a word. -/
inductive Format where
  /-- All digits fixed. -/
  | exact (word : Nat)
  /-- A first digit, then an address. -/
  | address (top : Nat)
  /-- A first digit, a register, then a byte. -/
  | regByte (top : Nat)
  /-- A first digit, two registers, then a last digit. -/
  | regReg (top low : Nat)
  /-- A first digit, two registers, then a row count. -/
  | regRegRows (top : Nat)
  /-- A first digit, a register, then two last digits. -/
  | reg (top low : Nat)
deriving DecidableEq, Repr

/-- The opcode table. -/
def Op.format : Op → Format
  | nop => .exact 0x0000
  | clear => .exact 0x00E0
  | ret => .exact 0x00EE
  | jump => .address 0x1
  | call => .address 0x2
  | skipEqByte => .regByte 0x3
  | skipNeByte => .regByte 0x4
  | skipEqReg => .regReg 0x5 0x0
  | loadByte => .regByte 0x6
  | addByte => .regByte 0x7
  | loadReg => .regReg 0x8 0x0
  | or => .regReg 0x8 0x1
  | and => .regReg 0x8 0x2
  | xor => .regReg 0x8 0x3
  | addReg => .regReg 0x8 0x4
  | sub => .regReg 0x8 0x5
  | shiftRight => .regReg 0x8 0x6
  | subFrom => .regReg 0x8 0x7
  | shiftLeft => .regReg 0x8 0xE
  | skipNeReg => .regReg 0x9 0x0
  | loadIndex => .address 0xA
  | jumpOffset => .address 0xB
  | random => .regByte 0xC
  | draw => .regRegRows 0xD
  | skipPressed => .reg 0xE 0x9E
  | skipReleased => .reg 0xE 0xA1
  | loadDelay => .reg 0xF 0x07
  | waitKey => .reg 0xF 0x0A
  | setDelay => .reg 0xF 0x15
  | setSound => .reg 0xF 0x18
  | addIndex => .reg 0xF 0x1E
  | loadGlyph => .reg 0xF 0x29
  | storeDecimal => .reg 0xF 0x33
  | storeRegs => .reg 0xF 0x55
  | loadRegs => .reg 0xF 0x65

/-- The 16-bit word `u` has the fixed digits of the format. -/
def Format.Matches : Format → Nat → Prop
  | exact word, u => u = word
  | address top, u => u / 0x1000 = top
  | regByte top, u => u / 0x1000 = top
  | regReg top low, u => u / 0x1000 = top ∧ u % 0x10 = low
  | regRegRows top, u => u / 0x1000 = top
  | reg top low, u => u / 0x1000 = top ∧ u % 0x100 = low

instance (f : Format) (u : Nat) : Decidable (f.Matches u) := by
  cases f <;> unfold Format.Matches <;> infer_instance

/-- The word of a layout with the operands that it leaves free. -/
def Format.assemble (f : Format) (x y : Nibble) (n kk nnn : Int) : Int :=
  match f with
  | exact word => word
  | address top => 0x1000 * top + nnn
  | regByte top => 0x1000 * top + 0x100 * x + kk
  | regReg top low => 0x1000 * top + 0x100 * x + 0x10 * y + low
  | regRegRows top => 0x1000 * top + 0x100 * x + 0x10 * y + n
  | reg top low => 0x1000 * top + 0x100 * x + low

/-- The word that the instruction's operation and operands make up. -/
def Instruction.assemble (ins : Instruction) : Int :=
  ins.op.format.assemble ins.x ins.y ins.n ins.kk ins.nnn

end Chip8
