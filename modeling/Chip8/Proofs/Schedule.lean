import Chip8.Proofs.Frames

/-!
# The schedule of a run

A run is so many steps in a row, with a tick behind every step whose number is a multiple of the
frame length. `schedule` writes this down as a sequence of operations, numbered from one and without
a counter that is carried along; a run does what stands there up to the first step that fails. As
the counter tells no more than its place in the frame, a run that ends with a full frame can be
continued by another run.
-/

namespace Chip8

/-- The steps up to the number `n`, and the ticks between them. -/
def schedule (frame n : Nat) : List Call :=
  (List.range' 1 n).flatMap fun i => if frame ∣ i then [.step, .tick] else [.step]

theorem schedule_succ (frame n : Nat) :
    schedule frame (n + 1) =
      schedule frame n ++ if frame ∣ n + 1 then [.step, .tick] else [.step] := by
  rw [schedule, List.range'_concat, List.flatMap_append, List.flatMap_singleton, Nat.one_mul,
    Nat.add_comm 1 n]
  rfl

/-- As many steps as are asked for, and a tick for every full frame. -/
theorem countP_schedule (p : Call → Bool) (frame n : Nat) :
    (schedule frame n).countP p =
      (if p .step then n else 0) + if p .tick then n / frame else 0 := by
  induction n with
  | zero => simp [schedule]
  | succ n ih =>
    rw [schedule_succ, List.countP_append, ih, Nat.succ_div]
    by_cases h : frame ∣ n + 1
    · rw [if_pos h, if_pos h, List.countP_cons, List.countP_singleton]
      grind
    · rw [if_neg h, if_neg h, List.countP_singleton]
      grind

namespace Machine

variable {m : Machine} {frame n : Nat}

/-- The machine when `i` steps of a run and the ticks that belong to them have been made. -/
def scheduled (m : Machine) (frame i : Nat) : Machine := m.applyAll (schedule frame i)

theorem scheduled_succ (m : Machine) (frame i : Nat) :
    m.scheduled frame (i + 1) =
      let next := (m.scheduled frame i).step.machine
      if (i + 1) % frame = 0 then next.tick else next := by
  rw [scheduled, schedule_succ, applyAll_append]
  by_cases h : frame ∣ i + 1
  · rw [if_pos h, if_pos (Nat.mod_eq_zero_of_dvd h)]
    rfl
  · rw [if_neg h, if_neg fun hm => h (Nat.dvd_of_mod_eq_zero hm)]
    rfl

/-! ## Steps by the schedule -/

theorem steps_of_succeeds (h : ∀ i < n, (m.scheduled frame i).step.error = none) :
    steps frame n 0 m = .done (m.scheduled frame n) := by
  induction n with
  | zero => rfl
  | succ n ih =>
    have hn := h n (Nat.lt_succ_self n)
    rw [steps_add frame n 1, ih fun i hi => h i (Nat.lt_succ_of_lt hi),
      Outcome.andThen_of_done rfl, steps_succ]
    show (m.scheduled frame n).step.andThen _ = _
    rw [Outcome.andThen_of_done hn, scheduled_succ, Nat.zero_add]
    rfl

/-- The loop of `run` ends with the first step that fails. -/
theorem steps_of_fails {j : Nat} (hj : j < n)
    (h : ∀ i < j, (m.scheduled frame i).step.error = none)
    (he : (m.scheduled frame j).step.error ≠ none) :
    steps frame n 0 m = (m.scheduled frame j).step := by
  obtain ⟨left, rfl⟩ : ∃ left, n = j + (left + 1) := ⟨n - j - 1, by omega⟩
  obtain ⟨e, hs⟩ := Option.ne_none_iff_exists'.1 he
  rw [steps_add, steps_of_succeeds h, Outcome.andThen_of_done rfl, steps_succ]
  exact Outcome.andThen_of_error hs

/-! ## Runs behind runs -/

/-- Of the steps gone before, only their place in the frame matters. -/
theorem steps_congr_mod {gone gone' : Nat} (h : gone % frame = gone' % frame) (n : Nat)
    (m : Machine) : steps frame n gone m = steps frame n gone' m := by
  induction n generalizing gone gone' m with
  | zero => rfl
  | succ n ih =>
    have hs : (gone + 1) % frame = (gone' + 1) % frame := by
      rw [Nat.add_mod, h, ← Nat.add_mod]
    rw [steps_succ, steps_succ, hs]
    congr 1
    funext k
    exact ih hs _

theorem run_add {a b t : Int} (ha : 0 ≤ a) (hb : 0 ≤ b) (h : t ∣ a) (m : Machine) :
    m.run (a + b) t = (m.run a t).andThen fun k => k.run b t := by
  by_cases ht : 1 ≤ t
  · have hmod : (0 + a.toNat) % t.toNat = 0 % t.toNat := by
      have hd : t.toNat ∣ a.toNat := by
        rw [← Int.natCast_dvd_natCast, Int.toNat_of_nonneg ha, Int.toNat_of_nonneg (by omega)]
        exact h
      rw [Nat.zero_add, Nat.zero_mod, Nat.mod_eq_zero_of_dvd hd]
    simp only [run_eq_steps ht]
    rw [show (a + b).toNat = a.toNat + b.toNat by omega, steps_add]
    congr 1
    funext k
    exact steps_congr_mod hmod _ _
  · have hf : ∀ n, m.run n t = .fail m (.frameLength t) := fun n => if_pos (by omega)
    rw [hf, hf]
    rfl

/-- A run refuses frames of no steps and leaves the machine as it was. Otherwise it does what the
schedule says: to its end if no step fails, and else up to the first step that does, whose outcome
is that of the run. There is a tick for every full frame, and none behind the step that fails. A run
of full frames can be split off at its end from the steps that follow. -/
theorem run_follows_schedule (m : Machine) (n t : Int) :
    (t < 1 → m.run n t = .fail m (.frameLength t)) ∧
    (1 ≤ t →
      ((∀ i < n.toNat, (m.scheduled t.toNat i).step.error = none) →
        m.run n t = .done (m.scheduled t.toNat n.toNat)) ∧
      (∀ j < n.toNat, (∀ i < j, (m.scheduled t.toNat i).step.error = none) →
        (m.scheduled t.toNat j).step.error ≠ none →
          m.run n t = (m.scheduled t.toNat j).step) ∧
      ∀ i, (schedule t.toNat i).countP (fun c => c matches .step) = i ∧
        (schedule t.toNat i).countP (fun c => c matches .tick) = i / t.toNat) ∧
    ∀ a b : Int, 0 ≤ a → 0 ≤ b → t ∣ a →
      m.run (a + b) t = (m.run a t).andThen fun k => k.run b t := by
  refine ⟨fun ht => if_pos ht, fun ht => ⟨?_, ?_, ?_⟩, ?_⟩
  · intro h
    rw [run_eq_steps ht]
    exact steps_of_succeeds h
  · intro j hj h he
    rw [run_eq_steps ht]
    exact steps_of_fails hj h he
  · intro i
    rw [countP_schedule, countP_schedule]
    simp
  · intro a b ha hb h
    exact run_add ha hb h m

/-- The sixth step fails, a return from nowhere, where the second frame would have ended. -/
theorem run_follows_schedule_return :
    let m := (fresh 0).applyAll
      [.load (.bytes [0x60, 0x09, 0xF0, 0x15, 0x00, 0x00, 0x00, 0x00, 0x00, 0x00, 0x00, 0xEE])]
    let last := m.scheduled 3 5
    (5 < (9 : Int).toNat ∧ (∀ i < 5, (m.scheduled 3 i).step.error = none) ∧
      last.step.error ≠ none) ∧
      m.run 9 3 = last.step ∧ last.step.machine.delay = 8 ∧
      m.run 4 3 = .done (m.scheduled 3 4) ∧ m.run 4 0 = .fail m (.frameLength 0) ∧
      m.run (3 + 6) 3 = (m.run 3 3).andThen fun k => k.run 6 3 := by
  intro m last
  obtain ⟨hok, he, hd⟩ : (∀ i < 5, (m.scheduled 3 i).step.error = none) ∧
      last.step.error ≠ none ∧ last.step.machine.delay = 8 := by decide +kernel
  obtain ⟨-, hrun, hadd⟩ := run_follows_schedule m 9 3
  obtain ⟨-, hshort, -⟩ := run_follows_schedule m 4 3
  refine ⟨⟨by decide, hok, he⟩, (hrun (by decide)).2.1 5 (by decide) hok he, hd, ?_, ?_, ?_⟩
  · exact (hshort (by decide)).1 fun i hi => hok i (Nat.lt_succ_of_lt hi)
  · exact (run_follows_schedule m 4 0).1 (by decide)
  · exact hadd 3 6 (by decide) (by decide) (Int.dvd_refl 3)

end Machine

end Chip8
