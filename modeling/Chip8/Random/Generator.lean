import Chip8.Random.Seeding

/-!
# The random source

A linear congruential generator on 128 bits. Each advance yields 64 bits, the two halves of the
state combined and rotated by the state's top six bits, and from these come two random bytes: the
top byte of the low half at once, that of the high half with the next request. A generator is
determined by its seed, so equal seeds give equal streams.
-/

namespace Chip8.Random

/-- The state of the random source; `spare` is the half of the last output not used yet. -/
structure Generator where
  state : BitVec 128
  increment : BitVec 128
  spare : Option (BitVec 32)
deriving DecidableEq, Repr

namespace Generator

def multiplier : BitVec 128 := 0x2360ed051fc65da44385df649fccf645#128

def advance (g : Generator) : Generator :=
  { g with state := g.state * multiplier + g.increment }

/-- The 64 bits that the current state stands for. -/
def output (g : Generator) : BitVec 64 :=
  let high := g.state.extractLsb' 64 64
  let low := g.state.extractLsb' 0 64
  (high ^^^ low).rotateRight (g.state.extractLsb' 122 6).toNat

/-- The random byte that a half output stands for. -/
def topByte (half : BitVec 32) : UInt8 := ⟨half.extractLsb' 24 8⟩

/-- `rng.integers` for a byte: an output of 64 bits serves two of them. -/
def byte (g : Generator) : UInt8 × Generator :=
  match g.spare with
  | some half => (topByte half, { g with spare := none })
  | none =>
    let g := g.advance
    (topByte (g.output.extractLsb' 0 32), { g with spare := some (g.output.extractLsb' 32 32) })

/-- Two words of the pool as one of 64 bits, the first of them low. -/
def seedWord (p : Pool) (k : Nat) : BitVec 64 :=
  (p.draw (2 * k + 1)).toBitVec ++ (p.draw (2 * k)).toBitVec

/-- The generator at the start of the stream of `seed`. -/
def ofSeed (seed : Nat) : Generator :=
  let p := Pool.ofSeed seed
  let start := seedWord p 0 ++ seedWord p 1
  let increment := ((seedWord p 2 ++ seedWord p 3) <<< 1) ||| 1
  advance { state := start + increment, increment, spare := none }

end Generator

end Chip8.Random
