import Chip8.Proofs.RandomSource
import Chip8.Proofs.Reachable

/-!
# Starting over

The seed of a machine is set when the machine is made, and no operation changes it, not even an
instruction that was never fetched and finds the machine outside its bounds. A reset puts back
everything else. So a machine that is reset is the new machine of its seed, and no later operation
can tell what happened before.
-/

namespace Chip8

namespace Machine

/-! ## The seed stays -/

theorem seed_execute (m : Machine) (ins : Instruction) : (m.execute ins).machine.seed = m.seed := by
  by_cases h : ins.op = .random
  · rw [execute_random m h]
    rfl
  · exact (sameSource_execute m h).seed

theorem seed_step (m : Machine) : m.step.machine.seed = m.seed := by
  cases hn : m.next? with
  | none => exact (sameSource_step hn).seed
  | some ins =>
    obtain ⟨-, crashed, cycles, hs⟩ := step_of_next? hn
    rw [hs]
    exact seed_execute m.fetched ins

theorem seed_apply (m : Machine) (c : Call) : (m.apply c).machine.seed = m.seed := by
  cases c with
  | load p =>
    obtain ⟨memory, hm⟩ := m.machine_load p
    rw [apply, hm]
  | step => exact seed_step m
  | tick => rfl
  | setKey key down =>
    obtain ⟨keypad, hm⟩ := m.machine_setKey key down
    rw [apply, hm]
  | run cycles frame =>
    exact run_induction (P := fun n => n.seed = m.seed) (fun n h => (seed_step n).trans h)
      (fun _ h => h) cycles frame rfl
  | reset => rfl
  | execute ins => exact seed_execute m ins

/-- No operation changes the seed. -/
theorem seed_applyAll (m : Machine) (cs : List Call) : (m.applyAll cs).seed = m.seed := by
  induction cs generalizing m with
  | nil => rfl
  | cons c cs ih =>
    rw [applyAll_cons, ih, seed_apply]

/-! ## New machines -/

/-- The font lies at the bottom of memory, all else is blank, and the random source is at the start
of the stream of the seed. -/
structure Pristine (m : Machine) (seed : Nat) : Prop where
  glyphs : ∀ (i : Nat) (h : i < Font.bytes.length), m.memory.read? (i : Nat) = some Font.bytes[i]
  zeros : ∀ a : Int, Font.bytes.length ≤ a → a < 4096 → m.memory.read? a = some 0
  display : ∀ x y, m.display.get x y = false
  registers : ∀ k, m.registers.read k = 0
  stack : ∀ k, m.stack.read k = 0
  keypad : ∀ k, m.keypad.read k = false
  pc : m.pc = 0x200
  index : m.index = 0
  sp : m.sp = 0
  timers : m.delay = 0 ∧ m.sound = 0
  wait : m.waiting = false ∧ m.keyRegister = 0
  crashed : m.crashed = false
  cycles : m.cycles = 0
  random : m.random = .ofSeed seed ∧ m.random.spare = none

theorem pristine_fresh (seed : Nat) : Pristine (fresh seed) seed where
  glyphs i h := by
    show (Memory.zero.store 0 Font.bytes).1.read? i = _
    have hl : Font.bytes.length = 80 := Font.length_bytes
    rw [Memory.read?_store _ (Int.le_refl 0), if_pos (by omega), Int.sub_zero, Int.toNat_natCast,
      List.getElem?_eq_getElem h]
  zeros a h0 h1 := by
    show (Memory.zero.store 0 Font.bytes).1.read? a = _
    obtain ⟨k, hk⟩ : ∃ k, Memory.cell? a = some k := by
      rw [← Option.ne_none_iff_exists', ne_eq, Memory.cell?_eq_none]
      omega
    rw [Memory.read?_store _ (Int.le_refl 0), if_neg (by omega), Memory.read?, hk]
    simp [Memory.zero]
  display x y := Bitmap.get_blank x y
  registers k := Bank.read_replicate 0 k
  stack k := Bank.read_replicate 0 k
  keypad k := Bank.read_replicate false k
  pc := rfl
  index := rfl
  sp := rfl
  timers := ⟨rfl, rfl⟩
  wait := ⟨rfl, rfl⟩
  crashed := rfl
  cycles := rfl
  random := ⟨rfl, rfl⟩

theorem reset_congr {m n : Machine} (h : m.seed = n.seed) : m.reset = n.reset := by
  rw [reset_eq, reset_eq, h]

/-- A reset forgets everything: after any operations, failed ones and instructions that were never
fetched among them, it leaves what making a machine of the same seed leaves, and every operation
that follows has the same outcome on both machines, however many came between. -/
theorem reset_forgets (seed : Nat) :
    ∃ made, Machine.new (some (seed : Int)) = .ok made ∧ Pristine made.machine seed ∧
      ∀ before : List Call,
        let restarted := (made.machine.applyAll before).reset
        restarted = made ∧
        ∀ (later : List Call) (next : Call),
          (restarted.machine.applyAll later).apply next =
            (made.machine.applyAll later).apply next := by
  refine ⟨(fresh seed).reset, new_natCast seed, pristine_fresh seed, fun before => ?_⟩
  have hback : ((fresh seed).reset.machine.applyAll before).reset = (fresh seed).reset :=
    reset_congr (seed_applyAll _ before)
  refine ⟨hback, fun later next => ?_⟩
  rw [hback]

end Machine

end Chip8
