import Chip8.Capacity
import Chip8.Machine.Basic

/-!
# Programs

A program is a sequence of bytes, in whatever form a caller has it: bytes, whole numbers, a count of
zeros, or a grid of numbers read row by row. Loading checks the numbers before the size, and changes
nothing unless all fits.
-/

namespace Chip8

/-- Numbers arranged in rows of rows, to any depth. -/
inductive Grid (α : Type) where
  | cell (a : α)
  | rows (rs : List (Grid α))

namespace Grid

variable {α : Type}

instance : Inhabited (Grid α) := ⟨rows []⟩

mutual

def toList : Grid α → List α
  | cell a => [a]
  | rows rs => listToList rs

def listToList : List (Grid α) → List α
  | [] => []
  | r :: rs => toList r ++ listToList rs

end

def ofList (xs : List α) : Grid α := rows (xs.map cell)

theorem toList_ofList (xs : List α) : (ofList xs).toList = xs := by
  rw [ofList, toList]
  induction xs with
  | nil => simp [listToList]
  | cons x xs ih => simp [listToList, toList, ih]

end Grid

inductive Program where
  | bytes (bs : List UInt8)
  | numbers (zs : List Int)
  | zeros (count : Int)
  | grid (g : Grid Int)
  /-- Fractions are cut off. -/
  | realGrid (g : Grid Float)

namespace Program

def byte? (z : Int) : Option UInt8 := if 0 ≤ z ∧ z ≤ 0xFF then some (.ofInt z) else none

/-- All of the bytes, if all numbers are bytes. -/
def collect (bs : List (Option UInt8)) : Except Error (List UInt8) :=
  match bs.mapM id with
  | some bs => .ok bs
  | none => .error .byteRange

/-- Bytes that a sequence takes besides those in it. -/
abbrev overhead : Int := 33

/-- As many zeros, which are made only if they fit. -/
def zeroBytes (count : Int) : Except Error (List UInt8) :=
  if !Capacity.countable count then .error .countRange
  else if count < 0 then .error .negativeCount
  else if Capacity.maxCount < count + overhead then .error .countLimit
  else if Capacity.maxBytes < count then .error .outOfMemory
  else if maxProgramSize < count then .error (.fault (.romTooLarge count maxProgramSize))
  else .ok (.replicate count.toNat 0)

/-! ## Arrays -/

/-- What `load` asks of the numbers in an array. -/
structure Numeric (α : Type) where
  /-- The lesser of two numbers. -/
  least : α → α → α
  /-- The greater of two numbers. -/
  most : α → α → α
  isNegative : α → Bool
  /-- The number is more than a byte holds. -/
  isLarge : α → Bool
  /-- The low byte, whatever the number is. -/
  narrow : α → UInt8

def integers : Numeric Int where
  least := min
  most := max
  isNegative z := z < 0
  isLarge z := 0xFF < z
  narrow := .ofInt

/-- The low byte of a number in a word of 32 bits, which is zero if the word does not hold the
number. -/
def lowByte (r : Float) : UInt8 :=
  if -0x80000001 < r && r < 0x80000000 then .ofInt r.toInt64.toInt else 0

/-- Where one is not a number, neither the least nor the greatest of them is one, and neither is out
of range. -/
def reals : Numeric Float where
  least a b := if a.isNaN || a < b then a else b
  most a b := if a.isNaN || b < a then a else b
  isNegative r := r < 0
  isLarge r := 0xFF < r
  narrow := lowByte

/-- What `load` makes of an array. Only its least number and its greatest are compared with the
bounds of a byte, and an array without numbers has neither; what passes is narrowed. -/
def arrayBytes {α : Type} (k : Numeric α) (xs : List α) : Except Error (List UInt8) :=
  match xs with
  | [] => .ok []
  | x :: rest =>
    if k.isNegative (rest.foldl k.least x) || k.isLarge (rest.foldl k.most x) then
      .error .byteRange
    else .ok (xs.map k.narrow)

def content : Program → Except Error (List UInt8)
  | bytes bs => .ok bs
  | numbers zs => collect (zs.map byte?)
  | zeros count => zeroBytes count
  | grid g => arrayBytes integers g.toList
  | realGrid g => arrayBytes reals g.toList

end Program

/-- `load`: copy a program into memory. What lay behind its end stays. -/
def Machine.load (m : Machine) (p : Program) : Outcome :=
  match p.content with
  | .error e => .fail m e
  | .ok bs =>
    if maxProgramSize < bs.length then .fail m (.fault (.romTooLarge bs.length maxProgramSize))
    else
      { machine := { m with memory := (m.memory.store programStart bs).1 }
        log := [.loaded bs.length] }

theorem Machine.machine_load (m : Machine) (p : Program) :
    ∃ memory, (m.load p).machine = { m with memory } := by
  unfold load
  split
  · exact ⟨_, rfl⟩
  · split
    · exact ⟨_, rfl⟩
    · exact ⟨_, rfl⟩

end Chip8
