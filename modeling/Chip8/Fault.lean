import Chip8.Text.Hex

/-!
# Faults

A fault is what a machine refuses: a word that is no instruction, an access outside one of its fixed
bounds, a program that does not fit, or a further step after an earlier fault. Each constructor
names one cause and carries what the message cites.
-/

namespace Chip8

open Text (hex)

inductive Fault where
  /-- A word that is no instruction, and where it was fetched, if it was. -/
  | unknownInstruction (word : Int) (address : Option Int)
  /-- A memory cell outside memory. -/
  | memoryAccess (address : Int)
  /-- A call at `pc` with every stack slot in use. -/
  | stackOverflow (pc : Int)
  /-- A return at `pc` with no call to return from. -/
  | stackUnderflow (pc : Int)
  /-- A key that the keypad does not have. -/
  | keyIndex (key : Int)
  /-- A program of `size` bytes where `limit` fit. -/
  | romTooLarge (size limit : Int)
  /-- A step of a machine that crashed and still stands at `pc`. -/
  | halted (pc : Int)
deriving DecidableEq, Repr

namespace Fault

/-- The kinds of fault that callers tell apart. `general` and `bounds` stand for whole groups. -/
inductive Kind where
  | general | bounds
  | unknownInstruction | memoryAccess | stackOverflow | stackUnderflow | keyIndex | romTooLarge
  | halted
deriving DecidableEq, Repr

/-- Execution left one of the machine's fixed bounds. -/
def Kind.isBounds : Kind → Bool
  | .bounds | .memoryAccess | .stackOverflow | .stackUnderflow | .keyIndex => true
  | _ => false

/-- A value that the caller should not have passed. -/
def Kind.isValue : Kind → Bool
  | .keyIndex | .romTooLarge => true
  | _ => false

/-- An index that the caller should not have used. -/
def Kind.isIndex : Kind → Bool
  | .memoryAccess => true
  | _ => false

def kind : Fault → Kind
  | unknownInstruction .. => .unknownInstruction
  | memoryAccess _ => .memoryAccess
  | stackOverflow _ => .stackOverflow
  | stackUnderflow _ => .stackUnderflow
  | keyIndex _ => .keyIndex
  | romTooLarge .. => .romTooLarge
  | halted _ => .halted

def message : Fault → String
  | unknownInstruction word none => "Unknown instruction 0x" ++ hex 4 word
  | unknownInstruction word (some address) =>
    "Unknown instruction 0x" ++ hex 4 word ++ " at PC=0x" ++ hex 3 address
  | memoryAccess address => "Memory access out of range: 0x" ++ hex 1 address
  | stackOverflow pc => "Stack overflow at PC=0x" ++ hex 3 pc
  | stackUnderflow pc => "RET with empty stack at PC=0x" ++ hex 3 pc
  | keyIndex key => "Key index out of range: " ++ toString key ++ " (expected 0-15)"
  | romTooLarge size limit => "ROM too large: " ++ toString size ++ " bytes, max " ++ toString limit
  | halted pc => "Machine crashed at PC=0x" ++ hex 3 pc ++ "; reset() before stepping"

end Fault

end Chip8
