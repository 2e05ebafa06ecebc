import Chip8.Nibble
import Chip8.Text.Hex

/-!
# Instructions

The 35 operations of the machine, and an instruction as an operation together with the operands that
its word holds. An operand that an operation does not use is there all the same.
-/

namespace Chip8

inductive Op where
  | nop | clear | ret | jump | call
  | skipEqByte | skipNeByte | skipEqReg
  | loadByte | addByte | loadReg | or | and | xor | addReg | sub | shiftRight | subFrom | shiftLeft
  | skipNeReg
  | loadIndex | jumpOffset | random | draw
  | skipPressed | skipReleased
  | loadDelay | waitKey | setDelay | setSound
  | addIndex | loadGlyph | storeDecimal | storeRegs | loadRegs
deriving DecidableEq, Repr

namespace Op

/-- Every operation, in the order of the instruction set's listing. -/
def all : List Op :=
  [nop, clear, ret, jump, call, skipEqByte, skipNeByte, skipEqReg, loadByte, addByte, loadReg, or,
   and, xor, addReg, sub, shiftRight, subFrom, shiftLeft, skipNeReg, loadIndex, jumpOffset, random,
   draw, skipPressed, skipReleased, loadDelay, waitKey, setDelay, setSound, addIndex, loadGlyph,
   storeDecimal, storeRegs, loadRegs]

theorem mem_all (op : Op) : op ∈ all := by cases op <;> decide

theorem nodup_all : all.Nodup := by decide

def name : Op → String
  | nop => "NOP"
  | clear => "CLS"
  | ret => "RET"
  | jump => "JP"
  | call => "CALL"
  | skipEqByte => "SE_BYTE"
  | skipNeByte => "SNE_BYTE"
  | skipEqReg => "SE_REG"
  | loadByte => "LD_BYTE"
  | addByte => "ADD_BYTE"
  | loadReg => "LD_REG"
  | or => "OR"
  | and => "AND"
  | xor => "XOR"
  | addReg => "ADD_REG"
  | sub => "SUB"
  | shiftRight => "SHR"
  | subFrom => "SUBN"
  | shiftLeft => "SHL"
  | skipNeReg => "SNE_REG"
  | loadIndex => "LD_I"
  | jumpOffset => "JP_V0"
  | random => "RND"
  | draw => "DRW"
  | skipPressed => "SKP"
  | skipReleased => "SKNP"
  | loadDelay => "LD_VX_DT"
  | waitKey => "LD_VX_K"
  | setDelay => "LD_DT_VX"
  | setSound => "LD_ST_VX"
  | addIndex => "ADD_I"
  | loadGlyph => "LD_F"
  | storeDecimal => "LD_B"
  | storeRegs => "LD_MEM_VX"
  | loadRegs => "LD_VX_MEM"

end Op

/-- An operation with its operands: two registers, a row count or last digit `n`, a byte `kk` and an
address `nnn`. A decoded instruction has them within a digit, two digits and three digits; one built
by hand may hold any numbers, and execution gives all of them a meaning. -/
structure Instruction where
  op : Op
  word : Int
  x : Nibble
  y : Nibble
  n : Int
  kk : Int
  nnn : Int
deriving DecidableEq, Repr

/-- The mnemonic and the word. -/
def Instruction.text (ins : Instruction) : String :=
  ins.op.name ++ " (0x" ++ Text.hex 4 ins.word ++ ")"

end Chip8
