import Chip8.Picture.Jpeg.Block

/-!
# Codes of blocks

The waves of a block are written from the longest to the shortest, along the diagonals. The first is
told by its distance to that of the block before, every other one by the number of zeros in front of
it. A number is its length in bits, which has a code, and the bits themselves.
-/

namespace Chip8.Picture.Jpeg

/-! ## Bits -/

def bitsOf (count n : Nat) : List Bool := (List.range count).reverse.map n.testBit

def bitLength (n : Nat) : Nat := if n = 0 then 0 else n.log2 + 1

/-- The bits of a number of a known length. Those of a number below zero are turned around. -/
def magnitude (z : Int) : List Bool :=
  let bits := bitsOf (bitLength z.natAbs) z.natAbs
  if z < 0 then bits.map not else bits

/-- Bits as bytes, with ones behind the last. -/
def packBits : List Bool → List UInt8
  | [] => []
  | b :: bs =>
    let byte := (b :: bs).take 8 ++ .replicate (8 - (b :: bs).length) true
    UInt8.ofNat (byte.foldl (fun n b => 2 * n + b.toNat) 0) :: packBits (bs.drop 7)
termination_by bs => bs.length
decreasing_by simp only [List.length_drop, List.length_cons]; omega

/-! ## Codes -/

/-- Symbols by the length of their codes: the number of codes of each length, and all symbols in
the order of their codes. -/
structure CodeTable where
  counts : List Nat
  symbols : List Nat

namespace CodeTable

/-- The lengths of codes, and the codes, from `next` on. -/
def codesFrom (length next : Nat) : List Nat → List (Nat × Nat)
  | [] => []
  | count :: counts =>
    (List.range count).map (fun k => (length, next + k))
      ++ codesFrom (length + 1) (2 * (next + count)) counts

def code (t : CodeTable) (symbol : Nat) : List Bool :=
  match (t.symbols.zip (codesFrom 1 0 t.counts)).lookup symbol with
  | some (length, code) => bitsOf length code
  | none => []

/-- The codes for the lengths of first waves. -/
def first : CodeTable where
  counts := [0, 1, 5, 1, 1, 1, 1, 1, 1, 0, 0, 0, 0, 0, 0, 0]
  symbols := List.range 12

/-- The codes for the other waves: zeros in front, and the length. -/
def others : CodeTable where
  counts := [0, 2, 1, 3, 3, 2, 4, 3, 5, 5, 4, 4, 0, 0, 1, 125]
  symbols :=
    [0x01, 0x02, 0x03, 0x00, 0x04, 0x11, 0x05, 0x12, 0x21, 0x31, 0x41, 0x06, 0x13, 0x51, 0x61, 0x07,
     0x22, 0x71, 0x14, 0x32, 0x81, 0x91, 0xA1, 0x08, 0x23, 0x42, 0xB1, 0xC1, 0x15, 0x52, 0xD1, 0xF0,
     0x24, 0x33, 0x62, 0x72, 0x82, 0x09, 0x0A, 0x16, 0x17, 0x18, 0x19, 0x1A, 0x25, 0x26, 0x27, 0x28,
     0x29, 0x2A, 0x34, 0x35, 0x36, 0x37, 0x38, 0x39, 0x3A, 0x43, 0x44, 0x45, 0x46, 0x47, 0x48, 0x49,
     0x4A, 0x53, 0x54, 0x55, 0x56, 0x57, 0x58, 0x59, 0x5A, 0x63, 0x64, 0x65, 0x66, 0x67, 0x68, 0x69,
     0x6A, 0x73, 0x74, 0x75, 0x76, 0x77, 0x78, 0x79, 0x7A, 0x83, 0x84, 0x85, 0x86, 0x87, 0x88, 0x89,
     0x8A, 0x92, 0x93, 0x94, 0x95, 0x96, 0x97, 0x98, 0x99, 0x9A, 0xA2, 0xA3, 0xA4, 0xA5, 0xA6, 0xA7,
     0xA8, 0xA9, 0xAA, 0xB2, 0xB3, 0xB4, 0xB5, 0xB6, 0xB7, 0xB8, 0xB9, 0xBA, 0xC2, 0xC3, 0xC4, 0xC5,
     0xC6, 0xC7, 0xC8, 0xC9, 0xCA, 0xD2, 0xD3, 0xD4, 0xD5, 0xD6, 0xD7, 0xD8, 0xD9, 0xDA, 0xE1, 0xE2,
     0xE3, 0xE4, 0xE5, 0xE6, 0xE7, 0xE8, 0xE9, 0xEA, 0xF1, 0xF2, 0xF3, 0xF4, 0xF5, 0xF6, 0xF7, 0xF8,
     0xF9, 0xFA]

end CodeTable

/-! ## Blocks -/

/-- Eight rows of eight, along the diagonals from the upper left, back and forth. -/
def diagonal {α : Type} (rows : List (List α)) : List α :=
  (List.range (2 * side - 1)).flatMap fun d =>
    let along := (List.range (d + 1)).filterMap fun y => (rows[y]?).bind (·[d - y]?)
    if d % 2 = 0 then along.reverse else along

example : (diagonal [[0, 1, 5], [2, 4], [3]]) = [0, 1, 2, 3, 4, 5] := by decide

/-- The length of a number behind `zeros` zeros, and its bits. Sixteen zeros have a code of their
own. -/
def codeBehind (zeros : Nat) (z : Int) : List Bool :=
  (List.replicate (zeros / 16) (CodeTable.others.code 0xF0)).flatten
    ++ CodeTable.others.code (16 * (zeros % 16) + bitLength z.natAbs) ++ magnitude z

/-- Numbers behind `zeros` zeros. The zeros at the end have one code together. -/
def codeAll (zeros : Nat) : List Int → List Bool
  | [] => if zeros = 0 then [] else CodeTable.others.code 0
  | z :: zs => if z = 0 then codeAll (zeros + 1) zs else codeBehind zeros z ++ codeAll 0 zs

/-- A block behind one with the first wave `before`. -/
def codeBlock (before : Int) (b : Block) : List Bool :=
  match diagonal b with
  | [] => []
  | z :: zs =>
    CodeTable.first.code (bitLength (z - before).natAbs) ++ magnitude (z - before) ++ codeAll 0 zs

def codeBlocks (before : Int) : List Block → List Bool
  | [] => []
  | b :: bs => codeBlock before b ++ codeBlocks ((diagonal b).headD 0) bs

end Chip8.Picture.Jpeg
