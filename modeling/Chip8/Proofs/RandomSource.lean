import Chip8.Proofs.Execution
import Chip8.Proofs.Stepping

/-!
# The random source

The bytes of a seed are numbered by the 64-bit outputs that they come from, and a generator is the
place in their stream that it has got to. A generator remembers half an output between two bytes, so
places are told by the number of bytes taken, not by the number of outputs. Of the instructions only
one takes a byte; the others leave the source, and the seed, as they are.
-/

namespace Chip8

namespace Random.Generator

def stage (seed : Nat) : Nat → Generator
  | 0 => ofSeed seed
  | j + 1 => (stage seed j).advance

def word (seed j : Nat) : BitVec 64 := (stage seed (j + 1)).output

/-- The half output for the `i`th byte: low halves serve the even places, high halves the odd. -/
def half (seed i : Nat) : BitVec 32 := (word seed (i / 2)).extractLsb' (32 * (i % 2)) 32

/-- The `i`th random byte of a seed. -/
def streamByte (seed i : Nat) : UInt8 := topByte (half seed i)

/-- The generator of a seed when `i` bytes are taken. -/
def after (seed i : Nat) : Generator :=
  { stage seed ((i + 1) / 2) with spare := if i % 2 = 0 then none else some (half seed i) }

theorem spare_advance (g : Generator) : g.advance.spare = g.spare := by rw [advance]

theorem spare_stage (seed j : Nat) : (stage seed j).spare = none := by
  induction j with
  | zero => rw [stage, ofSeed, spare_advance]
  | succ j ih => rw [stage, spare_advance, ih]

theorem after_of_even {seed i : Nat} (h : i % 2 = 0) : after seed i = stage seed (i / 2) := by
  have hs := spare_stage seed (i / 2)
  rw [after, if_pos h, show (i + 1) / 2 = i / 2 by omega, ← hs]

theorem after_of_odd {seed i : Nat} (h : i % 2 = 1) :
    after seed i = { stage seed (i / 2 + 1) with spare := some (half seed i) } := by
  rw [after, if_neg (by omega), show (i + 1) / 2 = i / 2 + 1 by omega]

theorem after_zero (seed : Nat) : after seed 0 = ofSeed seed := after_of_even rfl

theorem byte_of_none {g : Generator} (h : g.spare = none) :
    g.byte = (topByte (g.advance.output.extractLsb' 0 32),
      { g.advance with spare := some (g.advance.output.extractLsb' 32 32) }) := by
  simp only [byte, h]

theorem byte_of_some (g : Generator) (half : BitVec 32) :
    byte { g with spare := some half } = (topByte half, { g with spare := none }) := rfl

/-- A byte in an even place takes a new output and leaves its high half over. -/
theorem byte_after_of_even {seed i : Nat} (h : i % 2 = 0) :
    (after seed i).byte = (streamByte seed i, after seed (i + 1)) := by
  have hlow : half seed i = (word seed (i / 2)).extractLsb' 0 32 := by rw [half, h]
  have hhigh : half seed (i + 1) = (word seed (i / 2)).extractLsb' 32 32 := by
    rw [half, show (i + 1) / 2 = i / 2 by omega, show (i + 1) % 2 = 1 by omega]
  rw [after_of_even h, byte_of_none (spare_stage _ _), after_of_odd (i := i + 1) (by omega),
    show (i + 1) / 2 = i / 2 by omega, streamByte, hlow, hhigh, word, stage]

/-- A byte in an odd place takes what was left over. -/
theorem byte_after_of_odd {seed i : Nat} (h : i % 2 = 1) :
    (after seed i).byte = (streamByte seed i, after seed (i + 1)) := by
  rw [after_of_odd h, byte_of_some, streamByte, after, if_pos (by omega),
    show (i + 1 + 1) / 2 = i / 2 + 1 by omega]

/-- The next byte of a generator that has given `i` bytes is the `i`th of its stream. -/
theorem byte_after (seed i : Nat) :
    (after seed i).byte = (streamByte seed i, after seed (i + 1)) := by
  rcases Nat.mod_two_eq_zero_or_one i with h | h
  · exact byte_after_of_even h
  · exact byte_after_of_odd h

end Random.Generator

namespace Machine

/-- Neither the seed nor the place in its stream has changed. -/
structure SameSource (m m' : Machine) : Prop where
  seed : m'.seed = m.seed
  random : m'.random = m.random

/-! ## Instructions that leave the source alone -/

theorem sameSource_skipIf (m : Machine) (c : Bool) : SameSource m (m.skipIf c) := by
  obtain ⟨pc, hm⟩ := m.machine_skipIf c
  rw [hm]
  exact ⟨rfl, rfl⟩

theorem sameSource_call (m : Machine) (target : Int) : SameSource m (m.call target).machine := by
  obtain ⟨sp, stack, pc, hm⟩ := m.machine_call target
  rw [hm]
  exact ⟨rfl, rfl⟩

theorem sameSource_ret (m : Machine) : SameSource m m.ret.machine := by
  obtain ⟨sp, pc, hm⟩ := m.machine_ret
  rw [hm]
  exact ⟨rfl, rfl⟩

theorem sameSource_skipIfKey (m : Machine) (key : UInt8) (down : Bool) :
    SameSource m (m.skipIfKey key down).machine := by
  obtain ⟨pc, hm⟩ := m.machine_skipIfKey key down
  rw [hm]
  exact ⟨rfl, rfl⟩

theorem sameSource_waitKey (m : Machine) (x : Nibble) : SameSource m (m.waitKey x) := by
  obtain ⟨registers, waiting, keyRegister, pc, hm⟩ := m.machine_waitKey x
  rw [hm]
  exact ⟨rfl, rfl⟩

theorem sameSource_storeBytes (m : Machine) (bs : List UInt8) :
    SameSource m (m.storeBytes bs).machine := by
  rw [storeBytes_eq, machine_transferred]
  exact ⟨rfl, rfl⟩

theorem sameSource_loadRegs (m : Machine) (x : Nibble) :
    SameSource m (m.loadRegs x).machine := by
  rw [loadRegs_eq, machine_transferred]
  exact ⟨rfl, rfl⟩

theorem sameSource_drawSprite (m : Machine) (vx vy : UInt8) (n : Nat) :
    SameSource m (m.drawSprite vx vy n).machine := by
  obtain ⟨registers, display, hm⟩ := m.machine_drawSprite vx vy n
  rw [hm]
  exact ⟨rfl, rfl⟩

/-- No instruction but `_op_rnd` takes anything from the source. -/
theorem sameSource_execute (m : Machine) {ins : Instruction} (h : ins.op ≠ .random) :
    SameSource m (m.execute ins).machine := by
  obtain ⟨op, word, x, y, n, kk, nnn⟩ := ins
  cases op with
  | random => exact absurd rfl h
  | call => exact sameSource_call m nnn
  | ret => exact sameSource_ret m
  | skipEqByte | skipNeByte | skipEqReg | skipNeReg => exact sameSource_skipIf m _
  | skipPressed | skipReleased => exact sameSource_skipIfKey m _ _
  | waitKey => exact sameSource_waitKey m x
  | storeDecimal | storeRegs => exact sameSource_storeBytes m _
  | loadRegs => exact sameSource_loadRegs m x
  | draw => exact sameSource_drawSprite m _ _ _
  | _ => exact ⟨rfl, rfl⟩

theorem sameSource_poll (m : Machine) : SameSource m m.poll := by
  unfold poll
  split <;> exact ⟨rfl, rfl⟩

/-- A step without an instruction leaves the source alone. -/
theorem sameSource_step {m : Machine} (h : m.next? = none) : SameSource m m.step.machine := by
  rcases machine_step_of_next?_eq_none h with hs | ⟨pc, crashed, hs⟩
  · rw [hs]
    exact sameSource_poll m
  · rw [hs]
    exact ⟨rfl, rfl⟩

/-! ## The instruction that takes a byte -/

theorem execute_random (m : Machine) {ins : Instruction} (h : ins.op = .random) :
    m.execute ins = .done (m.takeRandom ins.x (.ofInt ins.kk)) := by
  obtain ⟨op, word, x, y, n, kk, nnn⟩ := ins
  cases h
  rfl

theorem takeRandom_eq (m : Machine) (x : Nibble) (mask : UInt8) :
    m.takeRandom x mask =
      { m with
        random := m.random.byte.2
        registers := m.registers.write x (m.random.byte.1 &&& mask) } := rfl

end Machine

end Chip8
