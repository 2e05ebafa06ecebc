import Chip8.Proofs.Chronicle
import Chip8.Proofs.RandomSource
import Chip8.Proofs.Stepping

/-!
# Random numbers

A record of the random numbers that instructions were given, each as it stood in its register behind
the instruction, kept beside the machine through steps, runs and instructions that were executed
without being fetched. The `i`th number since the last reset is the `i`th byte of the seed, masked,
and the machine's source is always as far as the record is long.
-/

namespace Chip8

/-- A random number as an instruction left it in a register. -/
structure Roll where
  register : Nibble
  mask : Int
  value : UInt8
deriving DecidableEq, Repr

/-- The record behind an instruction that has left the machine `m`. -/
def Roll.note (rolls : List Roll) (ins : Instruction) (m : Machine) : List Roll :=
  if ins.op = .random then rolls ++ [⟨ins.x, ins.kk, m.registers.read ins.x⟩] else rolls

namespace Machine

/-- The random numbers since the last reset. -/
def rolls : Chronicle (List Roll) where
  start := []
  step m rolls :=
    match m.next? with
    | some ins => Roll.note rolls ins m.step.machine
    | none => rolls

/-- The random numbers behind an operation, instructions that were not fetched included. -/
def rollsAfter (m : Machine) (before : List Roll) : Call → List Roll
  | .execute ins => Roll.note before ins (m.execute ins).machine
  | c => rolls.apply m before c

def rollsAfterAll (m : Machine) (before : List Roll) : List Call → List Roll
  | [] => before
  | c :: cs => rollsAfterAll (m.apply c).machine (m.rollsAfter before c) cs

open Chip8.Random (Generator)

variable {m : Machine} {seed : Nat} {before : List Roll}

/-! ## The record and the stream -/

/-- The numbers on record are the bytes of the seed, each under its mask, and the source stands
behind them. -/
structure Follows (seed : Nat) (m : Machine) (rolls : List Roll) : Prop where
  seed_eq : m.seed = seed
  random : m.random = .after seed rolls.length
  value : ∀ i r, rolls[i]? = some r → r.value = Generator.streamByte seed i &&& .ofInt r.mask

theorem follows_fresh (seed : Nat) : Follows seed (fresh seed) [] where
  seed_eq := rfl
  random := (Generator.after_zero seed).symm
  value _ _ h := by cases h

namespace Follows

theorem keep (h : Follows seed m before) {m' : Machine} (hs : SameSource m m') :
    Follows seed m' before where
  seed_eq := hs.seed.trans h.seed_eq
  random := hs.random.trans h.random
  value := h.value

/-- The number taken is the next byte of the stream. -/
theorem push (h : Follows seed m before) (x : Nibble) (kk : Int) :
    Follows seed (m.takeRandom x (.ofInt kk))
      (before ++ [⟨x, kk, (m.takeRandom x (.ofInt kk)).registers.read x⟩]) := by
  rw [takeRandom_eq, h.random, Generator.byte_after]
  refine ⟨h.seed_eq, ?_, fun i r hi => ?_⟩
  · rw [List.length_append, List.length_singleton]
  · rw [Bank.read_write, if_pos rfl] at hi
    rcases Nat.lt_trichotomy i before.length with hlt | rfl | hlt
    · rw [List.getElem?_append_left hlt] at hi
      exact h.value i r hi
    · rw [List.getElem?_concat_length] at hi
      cases hi
      rfl
    · rw [List.getElem?_eq_none (by rw [List.length_append, List.length_singleton]; omega)] at hi
      cases hi

theorem execute (h : Follows seed m before) (ins : Instruction) :
    Follows seed (m.execute ins).machine (Roll.note before ins (m.execute ins).machine) := by
  unfold Roll.note
  split
  · next hop =>
    rw [execute_random m hop]
    exact h.push ins.x ins.kk
  · next hop => exact h.keep (sameSource_execute m hop)

/-- A step takes a byte from the source just if it puts a roll on record. -/
theorem step (h : Follows seed m before) : Follows seed m.step.machine (rolls.step m before) := by
  cases hn : m.next? with
  | none =>
    simp only [rolls, hn]
    exact h.keep (sameSource_step hn)
  | some ins =>
    obtain ⟨-, crashed, cycles, hs⟩ := step_of_next? hn
    have hx := execute (m := m.fetched) { h with } ins
    simp only [rolls, hn]
    rw [hs]
    exact { hx with }

theorem tick (h : Follows seed m before) : Follows seed m.tick before := h.keep ⟨rfl, rfl⟩

theorem apply (h : Follows seed m before) (c : Call) :
    Follows seed (m.apply c).machine (m.rollsAfter before c) := by
  cases c with
  | load p =>
    obtain ⟨memory, hm⟩ := m.machine_load p
    rw [Machine.apply, hm]
    exact h.keep ⟨rfl, rfl⟩
  | step => exact h.step
  | tick => exact h.tick
  | setKey key down =>
    obtain ⟨keypad, hm⟩ := m.machine_setKey key down
    rw [Machine.apply, hm]
    exact h.keep ⟨rfl, rfl⟩
  | run cycles frame =>
    simp only [Machine.apply, rollsAfter, Chronicle.apply, Machine.run]
    split
    · exact h
    · exact rolls.steps_induction (fun _ _ => step) (fun _ _ => tick) _ _ _ h
  | reset =>
    have hf := follows_fresh m.seed
    rw [h.seed_eq] at hf
    rw [Machine.apply, reset_eq, h.seed_eq]
    exact hf
  | execute ins => exact h.execute ins

theorem applyAll (h : Follows seed m before) (cs : List Call) :
    Follows seed (m.applyAll cs) (m.rollsAfterAll before cs) := by
  induction cs generalizing m before with
  | nil => exact h
  | cons c cs ih =>
    rw [applyAll_cons]
    exact ih (h.apply c)

end Follows

/-! ## Who takes a byte -/

/-- `_op_rnd` never fails. -/
theorem error_apply_of_random {c : Call} {ins : Instruction} (h : m.executed? c = some ins)
    (hop : ins.op = .random) : (m.apply c).error = none := by
  obtain ⟨pc, -, -, he, -⟩ := apply_of_executed? h
  rw [he, execute_random _ hop]
  rfl

theorem random_apply_of_not_random {c : Call}
    (h : ∀ ins, m.executed? c = some ins → ins.op ≠ .random)
    (hrun : ∀ cycles frame, c ≠ .run cycles frame) (hreset : c ≠ .reset) :
    (m.apply c).machine.random = m.random := by
  cases c with
  | load p =>
    obtain ⟨memory, hm⟩ := m.machine_load p
    rw [apply, hm]
  | step =>
    cases hn : m.next? with
    | none => exact (sameSource_step hn).random
    | some ins =>
      obtain ⟨-, crashed, cycles, hs⟩ := step_of_next? hn
      rw [apply, hs]
      exact (sameSource_execute m.fetched (h ins hn)).random
  | tick => rfl
  | setKey key down =>
    obtain ⟨keypad, hm⟩ := m.machine_setKey key down
    rw [apply, hm]
  | run cycles frame => exact absurd rfl (hrun cycles frame)
  | reset => exact absurd rfl hreset
  | execute ins => exact (sameSource_execute m (h ins rfl)).random

/-- Random numbers are the bytes of the seed in their order. After any operations, with failures and
instructions that were never fetched among them, the `i`th number since the last reset is the `i`th
byte of the seed under the mask of its instruction, and the source stands behind the last of them.
An instruction that takes a byte does not fail, and no other operation takes one. -/
theorem rolls_follow_stream (seed : Nat) (ops : List Call) :
    let m := (fresh seed).applyAll ops
    let rolls := (fresh seed).rollsAfterAll [] ops
    (∀ i r, rolls[i]? = some r → r.value = Generator.streamByte seed i &&& .ofInt r.mask) ∧
    m.random = .after seed rolls.length ∧
    (∀ c ins, m.executed? c = some ins → ins.op = .random → (m.apply c).error = none) ∧
    ∀ c, (∀ ins, m.executed? c = some ins → ins.op ≠ .random) →
      (∀ cycles frame, c ≠ .run cycles frame) → c ≠ .reset →
        (m.apply c).machine.random = m.random := by
  intro m rolls
  have h : Follows seed m rolls := (follows_fresh seed).applyAll ops
  exact ⟨h.value, h.random, fun c ins hc hop => error_apply_of_random hc hop,
    fun c hc hrun hreset => random_apply_of_not_random hc hrun hreset⟩

/-- A seed of more than 128 bits. A first number is forgotten by a reset; of the later ones one is
masked out and one is taken by hand while the machine waits for a key. Then a return fails. -/
theorem rolls_follow_stream_interrupted :
    let seed := 1 <<< 160 + 7
    let byHand : Instruction := .ofWord .random 0xC5F0
    let ops : List Call := [.execute byHand, .reset,
      .load (.bytes [0xC0, 0x00, 0xF1, 0x0A, 0xC2, 0xFF, 0x00, 0xEE]), .run 2 1, .execute byHand,
      .step, .setKey 4 true, .step, .step]
    let m := (fresh seed).applyAll ops
    ((fresh seed).rollsAfterAll [] ops = [⟨0, 0, 0⟩, ⟨5, 0xF0, 0xD0⟩, ⟨2, 0xFF, 0x7A⟩] ∧
      m.executed? .step = some (.ofWord .ret 0xEE) ∧ m.step.error ≠ none) ∧
    0x7A = Generator.streamByte seed 2 &&& 0xFF ∧ m.random = .after seed 3 ∧
      m.step.machine.random = m.random := by
  intro seed byHand ops m
  obtain ⟨hrolls, hnext, herror⟩ :
      (fresh seed).rollsAfterAll [] ops = [⟨0, 0, 0⟩, ⟨5, 0xF0, 0xD0⟩, ⟨2, 0xFF, 0x7A⟩] ∧
        m.executed? .step = some (.ofWord .ret 0xEE) ∧ m.step.error ≠ none := by decide +kernel
  obtain ⟨hvalue, hrandom, -, hsame⟩ := rolls_follow_stream seed ops
  rw [hrolls] at hvalue hrandom
  refine ⟨⟨hrolls, hnext, herror⟩, hvalue 2 _ rfl, hrandom, hsame .step ?_ nofun nofun⟩
  intro ins hins
  cases hnext.symm.trans hins
  decide

end Machine

end Chip8
