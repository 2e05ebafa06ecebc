/-!
# Seeding

A seed is a natural number of any size. Its 32-bit words are hashed into a pool of four words, each
word of the pool is stirred into the others, and further words of the seed are stirred into all
four. Eight words drawn from the pool then set up a generator.
-/

namespace Chip8.Random

/-- The 32-bit words of a seed, least significant first; zero has one word. -/
def seedWords (seed : Nat) : List UInt32 :=
  if seed < 0x100000000 then [UInt32.ofNat seed]
  else UInt32.ofNat seed :: seedWords (seed / 0x100000000)
termination_by seed
decreasing_by omega

/-- `v` hashed under the key `key`, of which `next` is the successor. -/
def hash (key next v : UInt32) : UInt32 :=
  let w := (v ^^^ key) * next
  w ^^^ (w >>> 16)

def combine (x y : UInt32) : UInt32 :=
  let r := 0xca01f9dd * x - 0x4973f715 * y
  r ^^^ (r >>> 16)

/-- Four words of entropy, and the key for the next hash. -/
structure Pool where
  words : Vector UInt32 4
  key : UInt32
deriving DecidableEq, Repr

namespace Pool

def empty : Pool := ⟨.replicate 4 0, 0x43b0d7e5⟩

def nextKey (p : Pool) : UInt32 := p.key * 0x931e8875

/-- Put the hash of `v` at place `d`. -/
def fill (p : Pool) (d : Fin 4) (v : UInt32) : Pool :=
  ⟨p.words.set d (hash p.key p.nextKey v), p.nextKey⟩

/-- Work the hash of `v` into the word at place `d`. -/
def stir (p : Pool) (d : Fin 4) (v : UInt32) : Pool :=
  ⟨p.words.set d (combine p.words[d] (hash p.key p.nextKey v)), p.nextKey⟩

/-- Work every word of the pool into every other one. -/
def stirAll (p : Pool) : Pool :=
  (List.finRange 4).foldl (fun p s =>
    ((List.finRange 4).filter (· ≠ s)).foldl (fun p d => p.stir d p.words[s]) p) p

/-- Work a further word of the seed into all four places. -/
def stirIn (p : Pool) (v : UInt32) : Pool :=
  (List.finRange 4).foldl (fun p d => p.stir d v) p

def ofSeed (seed : Nat) : Pool :=
  let ws := seedWords seed
  let filled := (List.finRange 4).foldl (fun p d => p.fill d (ws.getD d 0)) empty
  (ws.drop 4).foldl stirIn filled.stirAll

def drawKey : Nat → UInt32
  | 0 => 0x8b51f9dd
  | i + 1 => drawKey i * 0x58f38ded

/-- The `i`th word drawn from the pool; its places take turns. -/
def draw (p : Pool) (i : Nat) : UInt32 :=
  hash (drawKey i) (drawKey (i + 1)) (p.words.get ⟨i % 4, Nat.mod_lt i (by decide)⟩)

end Pool

end Chip8.Random
