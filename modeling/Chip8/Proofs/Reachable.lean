import Chip8.Machine.Call

/-!
# Reachable machines

The machines that come about: a new one, and what the operations make of it, in any order and also
when they fail. Runs add nothing to steps and ticks, and a reset starts anew, so a property of all
of them has to be shown for new machines, loads, steps, ticks and keys only.
-/

namespace Chip8

/-- The operations offered to a machine's user; what is executed there was fetched before. -/
def Call.isPublic : Call → Bool
  | .execute _ => false
  | _ => true

namespace Machine

inductive Reachable : Machine → Prop
  | new {seed : Option Int} {o : Outcome} (h : Machine.new seed = .ok o) : Reachable o.machine
  | apply {m : Machine} {c : Call} (hm : Reachable m) (hc : c.isPublic = true) :
    Reachable (m.apply c).machine

theorem machine_of_new {seed : Option Int} {o : Outcome} (h : Machine.new seed = .ok o) :
    ∃ n, o.machine = fresh n := by
  unfold Machine.new at h
  split at h
  · cases h
    exact ⟨0, rfl⟩
  · split at h <;> cases h
    exact ⟨_, rfl⟩

theorem new_natCast (seed : Nat) : Machine.new (some (seed : Int)) = .ok (fresh seed).reset := by
  simp only [Machine.new, if_neg (show ¬ (seed : Int) < 0 by omega), Int.toNat_natCast]

theorem reachable_fresh (seed : Nat) : Reachable (fresh seed) := .new (new_natCast seed)

theorem Reachable.applyAll {m : Machine} (h : Reachable m) (cs : List Call)
    (hcs : ∀ c ∈ cs, c.isPublic = true) : Reachable (m.applyAll cs) := by
  induction cs generalizing m with
  | nil => exact h
  | cons c cs ih =>
    exact ih (h.apply (hcs c List.mem_cons_self)) fun d hd => hcs d (List.mem_cons_of_mem c hd)

theorem reachable_iff {m : Machine} :
    Reachable m ↔ ∃ seed cs, (∀ c ∈ cs, c.isPublic = true) ∧ m = (fresh seed).applyAll cs := by
  constructor
  · intro h
    induction h with
    | new h =>
      obtain ⟨n, hn⟩ := machine_of_new h
      exact ⟨n, [], by simp, hn⟩
    | @apply m c _ hc ih =>
      obtain ⟨seed, cs, hcs, rfl⟩ := ih
      refine ⟨seed, cs ++ [c], fun d hd => ?_, (applyAll_append _ cs [c]).symm⟩
      rcases List.mem_append.1 hd with hd | hd
      · exact hcs d hd
      · rw [List.mem_singleton.1 hd]
        exact hc
  · rintro ⟨seed, cs, hcs, rfl⟩
    exact (reachable_fresh seed).applyAll cs hcs

/-! ## Induction -/

section

variable {P : Machine → Prop} (hstep : ∀ m, P m → P m.step.machine) (htick : ∀ m, P m → P m.tick)
include hstep htick

theorem steps_induction (frame left gone : Nat) {m : Machine} (h : P m) :
    P (steps frame left gone m).machine := by
  induction left generalizing gone m with
  | zero => exact h
  | succ left ih =>
    have hs := hstep m h
    rw [steps]
    split
    · exact hs
    · refine ih _ ?_
      split
      · exact htick _ hs
      · exact hs

theorem run_induction (cycles frame : Int) {m : Machine} (h : P m) :
    P (m.run cycles frame).machine := by
  unfold run
  split
  · exact h
  · exact steps_induction hstep htick _ _ _ h

theorem Reachable.induction (hfresh : ∀ seed, P (fresh seed))
    (hload : ∀ m p, P m → P (m.load p).machine)
    (hkey : ∀ m key down, P m → P (m.setKey key down).machine) {m : Machine} (h : Reachable m) :
    P m := by
  induction h with
  | new h =>
    obtain ⟨n, hn⟩ := machine_of_new h
    rw [hn]
    exact hfresh n
  | @apply m c _ hc ih =>
    cases c with
    | load p => exact hload m p ih
    | step => exact hstep m ih
    | tick => exact htick m ih
    | setKey key down => exact hkey m key down ih
    | run cycles frame => exact run_induction hstep htick cycles frame ih
    | reset => exact hfresh m.seed
    | execute ins => cases hc

end

end Machine

end Chip8
