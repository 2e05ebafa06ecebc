import Chip8.Bitmap
import Chip8.Error
import Chip8.Font
import Chip8.Log
import Chip8.Nibble
import Chip8.Random.Generator

/-!
# The machine

The whole state of a machine, and what an operation on it leaves behind. Program counter, index
register, stack pointer and timers are integers, so that a state outside the machine's bounds can be
named; operations from a fresh machine stay within them.
-/

namespace Chip8

structure Machine where
  memory : Memory
  display : Bitmap
  registers : Bank UInt8
  /-- The index register, which points into memory. -/
  index : Int
  /-- The program counter. -/
  pc : Int
  /-- The number of calls to return from. -/
  sp : Int
  /-- Return addresses, oldest first; slots from `sp` on are left over from earlier calls. -/
  stack : Bank UInt16
  delay : Int
  sound : Int
  /-- The keys that are down. -/
  keypad : Bank Bool
  /-- Parked on an instruction that waits for a key. -/
  waiting : Bool
  /-- The register that the key goes to. -/
  keyRegister : Nibble
  crashed : Bool
  /-- Steps that went through without a fault, the step that parks the machine on an instruction
  and the one that finds a key for it among them: such an instruction counts twice. -/
  cycles : Nat
  seed : Nat
  random : Random.Generator
deriving DecidableEq

/-- What an operation leaves behind: the machine, also when the operation failed, the error that
stopped it, if one did, and what it logged. -/
structure Outcome where
  machine : Machine
  error : Option Error := none
  log : List Log.Entry := []

namespace Outcome

def done (m : Machine) : Outcome := { machine := m }

def fail (m : Machine) (e : Error) : Outcome := { machine := m, error := some e }

end Outcome

namespace Machine

/-- A machine that has done nothing yet. -/
def fresh (seed : Nat) : Machine where
  memory := Font.memory
  display := .blank
  registers := .replicate 16 0
  index := 0
  pc := programStart
  sp := 0
  stack := .replicate 16 0
  delay := 0
  sound := 0
  keypad := .replicate 16 false
  waiting := false
  keyRegister := 0
  crashed := false
  cycles := 0
  seed := seed
  random := .ofSeed seed

/-- `reset`: every part of the machine is put back, its random source to the start of the stream of
its seed. -/
def reset (m : Machine) : Outcome where
  machine :=
    { m with
      memory := Font.memory
      display := .blank
      registers := .replicate 16 0
      index := 0
      pc := programStart
      sp := 0
      stack := .replicate 16 0
      delay := 0
      sound := 0
      keypad := .replicate 16 false
      waiting := false
      keyRegister := 0
      crashed := false
      cycles := 0
      random := .ofSeed m.seed }
  log := [.reset programStart]

theorem reset_eq (m : Machine) :
    m.reset = { machine := fresh m.seed, log := [.reset programStart] } := rfl

/-- A new machine for a seed; without one, seed 0 serves. -/
def new (seed : Option Int) : Except Error Outcome :=
  match seed with
  | none => .ok (fresh 0).reset
  | some s => if s < 0 then .error .negativeSeed else .ok (fresh s.toNat).reset

def soundActive (m : Machine) : Bool := 0 < m.sound

/-- `_first_pressed_key`: the lowest key that is down. -/
def pressedKey? (m : Machine) : Option Nibble := (List.finRange 16).find? m.keypad.read

def setReg (m : Machine) (x : Nibble) (v : UInt8) : Machine :=
  { m with registers := m.registers.write x v }

/-- The register that flags carries, borrows and collisions. -/
abbrev flagRegister : Nibble := 0xF

def setFlag (m : Machine) (on : Bool) : Machine := m.setReg flagRegister (if on then 1 else 0)

def skipIf (m : Machine) (c : Bool) : Machine := if c then { m with pc := m.pc + 2 } else m

/-- One tick of a timer that stops at zero. -/
def countdown (timer : Int) : Int := if 0 < timer then timer - 1 else timer

/-- `tick_timers`: both timers count down together. -/
def tick (m : Machine) : Machine :=
  { m with delay := countdown m.delay, sound := countdown m.sound }

def setKey (m : Machine) (key : Int) (down : Bool) : Outcome :=
  match Nibble.ofInt? key with
  | some k => .done { m with keypad := m.keypad.write k down }
  | none => .fail m (.fault (.keyIndex key))

theorem machine_setKey (m : Machine) (key : Int) (down : Bool) :
    ∃ keypad, (m.setKey key down).machine = { m with keypad } := by
  unfold setKey
  split
  · exact ⟨_, rfl⟩
  · exact ⟨_, rfl⟩

end Machine

end Chip8
