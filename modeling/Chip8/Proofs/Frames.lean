import Chip8.Window.Basic
import Chip8.Proofs.Bounds

/-!
# Frames

A run counts its steps through and ticks the timers after every full frame; a window takes its
frames one by one, each with its own steps and its own tick. The two come to the same: whole frames
of a run are frames of the window, also when a step fails in the middle of one. The window then
keeps the crashed machine through all later frames.
-/

namespace Chip8

/-- Go on from where an operation succeeded. -/
def Outcome.andThen (o : Outcome) (next : Machine → Outcome) : Outcome :=
  match o.error with
  | none => next o.machine
  | some _ => o

namespace Outcome

variable {o : Outcome} {next : Machine → Outcome}

theorem andThen_of_done (h : o.error = none) : o.andThen next = next o.machine := by
  rw [andThen, h]

theorem andThen_of_error {e : Error} (h : o.error = some e) : o.andThen next = o := by
  rw [andThen, h]

theorem andThen_assoc (o : Outcome) (f g : Machine → Outcome) :
    (o.andThen f).andThen g = o.andThen fun m => (f m).andThen g := by
  cases h : o.error with
  | none => simp only [andThen_of_done h]
  | some e => simp only [andThen_of_error h]

end Outcome

/-! ## The frames of a run -/

namespace Machine

open Window (stepUpTo)

theorem steps_succ (frame left gone : Nat) (m : Machine) :
    steps frame (left + 1) gone m = m.step.andThen fun m =>
      steps frame left (gone + 1) (if (gone + 1) % frame = 0 then m.tick else m) := by
  rw [steps, Outcome.andThen]
  split
  · next h => rw [h]
  · next h => rw [h]

/-- Steps can be taken in two parts. -/
theorem steps_add (frame a b gone : Nat) (m : Machine) :
    steps frame (a + b) gone m =
      (steps frame a gone m).andThen (steps frame b (gone + a)) := by
  induction a generalizing gone m with
  | zero => rw [Nat.zero_add]; rfl
  | succ a ih =>
    rw [Nat.succ_add, steps_succ, steps_succ, Outcome.andThen_assoc]
    simp only [ih, Nat.add_assoc, Nat.add_comm 1 a]

theorem stepUpTo_succ (n : Nat) (m : Machine) :
    stepUpTo (n + 1) m = m.step.andThen (stepUpTo n) := by
  rw [stepUpTo, Outcome.andThen]
  split
  · next h => rw [h]
  · next h => rw [h]

/-- The steps up to the next full frame: no step but the last one completes a frame. -/
theorem steps_to_frame {frame n gone : Nat} (hn : n < frame) (hg : (gone + n + 1) % frame = 0)
    (m : Machine) :
    steps frame (n + 1) gone m = (stepUpTo (n + 1) m).andThen fun m => .done m.tick := by
  induction n generalizing gone m with
  | zero =>
    rw [steps_succ, stepUpTo_succ, Outcome.andThen_assoc]
    congr 1
    funext m
    rw [if_pos hg]
    rfl
  | succ n ih =>
    have hne : (gone + 1) % frame ≠ 0 := by
      intro h
      have hd : frame ∣ gone + 1 + (n + 1) := Nat.dvd_of_mod_eq_zero (by rw [← hg]; congr 1; omega)
      have := Nat.le_of_dvd (Nat.succ_pos n)
        ((Nat.dvd_add_right (Nat.dvd_of_mod_eq_zero h)).1 hd)
      omega
    rw [steps_succ, stepUpTo_succ, Outcome.andThen_assoc]
    congr 1
    funext m
    rw [if_neg hne]
    exact ih (by omega) (by rw [← hg]; congr 1; omega) m

/-- A whole frame of a run. -/
theorem steps_frame {frame gone : Nat} (hf : 0 < frame) (hg : gone % frame = 0) (m : Machine) :
    steps frame frame gone m = (stepUpTo frame m).andThen fun m => .done m.tick := by
  obtain ⟨n, rfl⟩ : ∃ n, frame = n + 1 := ⟨frame - 1, by omega⟩
  exact steps_to_frame (Nat.lt_succ_self n) (by rw [Nat.add_assoc, Nat.add_mod_right, hg]) m

theorem run_eq_steps {frame : Int} (hf : 1 ≤ frame) (m : Machine) (cycles : Int) :
    m.run cycles frame = steps frame.toNat cycles.toNat 0 m := if_neg (by omega)

/-- A number of whole frames. -/
theorem run_frames {t : Int} (ht : 1 ≤ t) (k : Nat) (m : Machine) :
    m.run (k * t) t = steps t.toNat (k * t.toNat) 0 m := by
  obtain ⟨n, rfl⟩ := Int.eq_ofNat_of_zero_le (show 0 ≤ t by omega)
  rw [run, if_neg (by omega), ← Int.natCast_mul, Int.toNat_natCast, Int.toNat_natCast]

theorem Bounded.stepUpTo {m : Machine} (h : Bounded m) (hc : m.crashed = false) (n : Nat) :
    Closed (stepUpTo n m) := by
  induction n generalizing m with
  | zero => exact .done h hc
  | succ n ih =>
    have hs := h.step
    rw [stepUpTo_succ]
    cases he : m.step.error with
    | none =>
      rw [Outcome.andThen_of_done he]
      exact ih hs.bounded (hs.not_crashed he)
    | some e =>
      rw [Outcome.andThen_of_error he]
      exact hs

theorem Bounded.steps {m : Machine} (h : Bounded m) (hc : m.crashed = false)
    (frame left gone : Nat) : Closed (steps frame left gone m) := by
  induction left generalizing gone m with
  | zero => exact .done h hc
  | succ left ih =>
    have hs := h.step
    rw [steps_succ]
    cases he : m.step.error with
    | none =>
      rw [Outcome.andThen_of_done he]
      split
      · exact ih hs.bounded.tick (hs.not_crashed he) _
      · exact ih hs.bounded (hs.not_crashed he) _
    | some e =>
      rw [Outcome.andThen_of_error he]
      exact hs

theorem Bounded.run {m : Machine} (h : Bounded m) (hc : m.crashed = false) (cycles : Int) {t : Int}
    (ht : 1 ≤ t) : Closed (m.run cycles t) := by
  rw [Machine.run, if_neg (by omega)]
  exact h.steps hc _ _ _

end Machine

/-! ## The frames of a window -/

namespace Window

open Machine (Bounded)

variable {w : Window}

def frames : Nat → Window → Window
  | 0, w => w
  | k + 1, w => frames k w.advance.window

def stepped (w : Window) : Outcome := stepUpTo w.ticksPerFrame.toNat w.machine

theorem advance_of_crashed (hc : w.machine.crashed = true) : w.advance = { window := w } := by
  rw [advance, if_pos hc]

/-- A full frame ends with a tick. -/
theorem advance_of_done (hc : w.machine.crashed = false) (he : w.stepped.error = none) :
    w.advance =
      { window := { w with machine := w.stepped.machine.tick }
        requests :=
          (if w.stepped.machine.tick.soundActive && !w.machine.soundActive then [.bell] else []) ++
            [.status (statusText w.stepped.machine.tick)] } := by
  unfold stepped at he
  rw [advance, if_neg (Bool.eq_false_iff.1 hc)]
  simp only [he]
  rfl

/-- A broken frame keeps the fault, and the timers stand. -/
theorem advance_of_fault {f : Fault} (hc : w.machine.crashed = false)
    (he : w.stepped.error = some (.fault f)) :
    w.advance =
      { window := { w with machine := w.stepped.machine, error := some f }
        requests := [.status ("CRASHED: " ++ f.message)]
        log := w.stepped.log ++ [.stopped f] } := by
  unfold stepped at he
  rw [advance, if_neg (Bool.eq_false_iff.1 hc)]
  simp only [he]
  rfl

/-- What a frame can come to: nothing on a crashed machine, all of its steps and a tick, or a step
that breaks it and crashes the machine. -/
theorem advance_cases (h : Bounded w.machine) :
    w.machine.crashed = true ∨
      (w.machine.crashed = false ∧ w.stepped.error = none ∧ w.stepped.machine.crashed = false) ∨
      w.machine.crashed = false ∧ w.stepped.machine.crashed = true ∧
        ∃ f, w.stepped.error = some (.fault f) := by
  cases hc : w.machine.crashed with
  | true => exact .inl rfl
  | false =>
  have hs : Machine.Closed w.stepped := h.stepUpTo hc _
  cases he : w.stepped.error with
  | none => exact .inr (.inl ⟨rfl, rfl, hs.not_crashed he⟩)
  | some e =>
    obtain ⟨f, rfl⟩ := hs.fault e he
    have hc' := hs.error_iff.1 (by rw [he]; exact Option.some_ne_none _)
    exact .inr (.inr ⟨rfl, hc', f, rfl⟩)

/-- A frame raises nothing, and keeps the bounds. -/
theorem closed_advance (h : Bounded w.machine) :
    w.advance.error = none ∧ Bounded w.advance.window.machine := by
  rcases advance_cases h with hc | ⟨hc, he, -⟩ | ⟨hc, -, f, he⟩
  · rw [advance_of_crashed hc]
    exact ⟨rfl, h⟩
  · rw [advance_of_done hc he]
    exact ⟨rfl, (h.stepUpTo hc _).bounded.tick⟩
  · rw [advance_of_fault hc he]
    exact ⟨rfl, (h.stepUpTo hc _).bounded⟩

theorem bounded_frames (h : Bounded w.machine) (k : Nat) : Bounded (w.frames k).machine := by
  induction k generalizing w with
  | zero => exact h
  | succ k ih => exact ih (closed_advance h).2

theorem frames_of_crashed (hc : w.machine.crashed = true) (k : Nat) : w.frames k = w := by
  induction k with
  | zero => rfl
  | succ k ih => rw [frames, advance_of_crashed hc, ih]

/-- Frames of a window are frames of a run that has only full frames behind it. -/
theorem frames_eq_steps {n gone : Nat} (h : Bounded w.machine) (hc : w.machine.crashed = false)
    (he : w.error = none) (ht : w.ticksPerFrame.toNat = n) (hn : 0 < n) (hg : gone % n = 0)
    (k : Nat) :
    ∃ error,
      w.frames k = { w with machine := (Machine.steps n (k * n) gone w.machine).machine, error } ∧
      (Machine.steps n (k * n) gone w.machine).error = error.map .fault := by
  induction k generalizing w gone with
  | zero =>
    rw [Nat.zero_mul]
    refine ⟨none, ?_, rfl⟩
    rw [← he]
    rfl
  | succ k ih =>
    have hsteps : stepUpTo n w.machine = w.stepped := by rw [← ht, stepped]
    rw [show (k + 1) * n = n + k * n by rw [Nat.succ_mul, Nat.add_comm], Machine.steps_add,
      Machine.steps_frame hn hg, Outcome.andThen_assoc, frames, hsteps]
    rcases advance_cases h with hx | ⟨-, ho, hc'⟩ | ⟨-, hc', f, ho⟩
    · exact absurd hx (Bool.eq_false_iff.1 hc)
    · -- the next frame begins with `gone + n` steps behind it, again full frames only
      rw [advance_of_done hc ho, Outcome.andThen_of_done ho]
      exact ih (h.stepUpTo hc _).bounded.tick hc' he ht (by rw [Nat.add_mod_right, hg])
    · -- the run ends here; the window has frames to come, which leave the crashed machine alone
      rw [advance_of_fault hc ho, Outcome.andThen_of_error ho, frames_of_crashed hc']
      exact ⟨some f, rfl, ho⟩

/-- Frames of a window are a `run` of as many full frames. -/
theorem frames_eq_run (h : Bounded w.machine) (hc : w.machine.crashed = false)
    (he : w.error = none) (ht : 1 ≤ w.ticksPerFrame) (k : Nat) :
    ∃ error,
      w.frames k =
        { w with
          machine := (w.machine.run (k * w.ticksPerFrame) w.ticksPerFrame).machine
          error } ∧
      (w.machine.run (k * w.ticksPerFrame) w.ticksPerFrame).error = error.map .fault := by
  rw [Machine.run_frames ht]
  exact frames_eq_steps h hc he rfl (by omega) (Nat.zero_mod _) k

end Window

end Chip8
