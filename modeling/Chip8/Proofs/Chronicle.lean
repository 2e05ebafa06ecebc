import Chip8.Proofs.Bounds

/-!
# Chronicles

Some things said of a machine are about how it came about, such as the calls from which it has yet
to return. A chronicle keeps a record of them beside the machine. It is told of every step, those of
a run included, and begins anew with every reset, so what ties it to the machine has to be shown for
single steps only.
-/

namespace Chip8

/-- How a record begins, and what becomes of it when a machine takes a step. -/
structure Chronicle (γ : Type) where
  start : γ
  step : Machine → γ → γ

namespace Chronicle

variable {γ : Type} (c : Chronicle γ)

/-- The record behind the steps of a run, which goes as `Machine.steps` does. -/
def steps (frame : Nat) : (left gone : Nat) → Machine → γ → γ
  | 0, _, _, g => g
  | left + 1, gone, m, g =>
    match m.step.error with
    | some _ => c.step m g
    | none =>
      let next := if (gone + 1) % frame = 0 then m.step.machine.tick else m.step.machine
      steps frame left (gone + 1) next (c.step m g)

def apply (m : Machine) (g : γ) : Call → γ
  | .step => c.step m g
  | .run cycles frame => if frame < 1 then g else c.steps frame.toNat cycles.toNat 0 m g
  | .reset => c.start
  | .load _ | .tick | .setKey _ _ | .execute _ => g

def applyAll (m : Machine) (g : γ) : List Call → γ
  | [] => g
  | op :: ops => applyAll (m.apply op).machine (c.apply m g op) ops

variable {P : Machine → γ → Prop}

/-- What a step and a tick keep is kept by the loop of `run`. -/
theorem steps_induction (hstep : ∀ m g, P m g → P m.step.machine (c.step m g))
    (htick : ∀ m g, P m g → P m.tick g) (frame left gone : Nat) {m : Machine} {g : γ}
    (h : P m g) : P (Machine.steps frame left gone m).machine (c.steps frame left gone m g) := by
  induction left generalizing gone m g with
  | zero => exact h
  | succ left ih =>
    have hs := hstep m g h
    rw [Machine.steps, steps]
    cases m.step.error with
    | some e => exact hs
    | none =>
      refine ih (gone + 1) ?_
      split
      · exact htick _ _ hs
      · exact hs

/-- What holds of new machines, is kept by every step and has nothing to do with memory, timers and
keypad holds of every machine that came about and its record. -/
theorem applyAll_induction (hfresh : ∀ seed, P (Machine.fresh seed) c.start)
    (hstep : ∀ m g, Machine.Bounded m → P m g → P m.step.machine (c.step m g))
    (hkeep : ∀ m g, P m g → ∀ memory delay sound keypad,
      P { m with memory, delay, sound, keypad } g)
    (seed : Nat) {ops : List Call} (hops : ∀ op ∈ ops, op.isPublic = true) :
    P ((Machine.fresh seed).applyAll ops) (c.applyAll (Machine.fresh seed) c.start ops) := by
  suffices hall : ∀ m g, Machine.Bounded m ∧ P m g →
      Machine.Bounded (m.applyAll ops) ∧ P (m.applyAll ops) (c.applyAll m g ops) from
    (hall _ _ ⟨Machine.bounded_fresh seed, hfresh seed⟩).2
  induction ops with
  | nil => exact fun _ _ h => h
  | cons op ops ih =>
    rintro m g ⟨hb, h⟩
    refine ih (fun d hd => hops d (List.mem_cons_of_mem op hd)) _ _ ?_
    have hop := hops op List.mem_cons_self
    cases op with
    | load p =>
      obtain ⟨memory, hm⟩ := m.machine_load p
      refine ⟨hb.load p, ?_⟩
      show P (m.load p).machine g
      rw [hm]
      exact hkeep m g h memory m.delay m.sound m.keypad
    | step => exact ⟨hb.step.bounded, hstep m g hb h⟩
    | tick => exact ⟨hb.tick, hkeep m g h m.memory _ _ m.keypad⟩
    | setKey key down =>
      obtain ⟨keypad, hm⟩ := m.machine_setKey key down
      refine ⟨hb.setKey key down, ?_⟩
      show P (m.setKey key down).machine g
      rw [hm]
      exact hkeep m g h m.memory m.delay m.sound keypad
    | run cycles frame =>
      simp only [Machine.apply, apply, Machine.run]
      split
      · exact ⟨hb, h⟩
      · exact c.steps_induction (P := fun m g => Machine.Bounded m ∧ P m g)
          (fun m g h => ⟨h.1.step.bounded, hstep m g h.1 h.2⟩)
          (fun m g h => ⟨h.1.tick, hkeep m g h.2 m.memory _ _ m.keypad⟩) _ _ _ ⟨hb, h⟩
    | reset => exact ⟨Machine.bounded_fresh m.seed, hfresh m.seed⟩
    | execute ins => cases hop

end Chronicle

end Chip8
