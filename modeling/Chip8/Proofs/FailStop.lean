import Chip8.Proofs.Frames

/-!
# After a crash

A step that fails, called for itself or by a run, is the last that the machine takes until it is
reset: the run ends with it, and every later step or run is refused and names the program counter
that was left. Ticks, keys and loads still get through, each to what it is there for, and nothing
else moves. Only the step that fails for the first time is told as an error in the log, so between
two resets there is at most one such line.
-/

namespace Chip8

/-- The operations that go on with the machine as it is. -/
def Call.isOngoing : Call → Bool
  | .reset | .execute _ => false
  | _ => true

theorem Call.isPublic_of_isOngoing {c : Call} (h : c.isOngoing = true) : c.isPublic = true := by
  cases c with
  | execute ins => cases h
  | _ => rfl

def Log.errors (log : List Log.Entry) : List Log.Entry := log.filter fun e => e.level = .error

theorem Log.errors_append (log log' : List Log.Entry) :
    errors (log ++ log') = errors log ++ errors log' := List.filter_append ..

namespace Machine

open Log (errors errors_append)

variable {m n left : Machine} {c : Call}

/-! ## Steps in the course of operations -/

/-- In the course of an operation, the machine has become `n` and takes a step. -/
inductive StepsFrom (m : Machine) : Call → Machine → Prop
  | step : StepsFrom m .step m
  | run {cycles frame : Int} {j : Nat} (hf : 1 ≤ frame) (hj : j < cycles)
    (h : (m.run j frame).error = none) : StepsFrom m (.run cycles frame) (m.run j frame).machine

/-- A failing step ends the operation, which fails as the step does and logs the same. -/
theorem StepsFrom.apply_eq (h : m.StepsFrom c n) (he : n.step.error ≠ none) :
    m.apply c = n.step := by
  obtain ⟨e, he⟩ := Option.ne_none_iff_exists'.1 he
  cases h with
  | step => rfl
  | @run cycles frame j hf hj h =>
    rw [run_eq_steps hf, Int.toNat_natCast] at h he ⊢
    obtain ⟨rest, hr⟩ : ∃ rest, cycles.toNat = j + (rest + 1) := ⟨cycles.toNat - j - 1, by omega⟩
    rw [apply, run_eq_steps hf, hr, steps_add, Outcome.andThen_of_done h, steps_succ,
      Outcome.andThen_of_error he]

theorem StepsFrom.reachable (h : m.StepsFrom c n) (hm : Reachable m) : Reachable n := by
  cases h with
  | step => exact hm
  | @run cycles frame j => exact hm.apply (c := .run j frame) rfl

/-- An operation on a running machine takes its steps on running machines. -/
theorem StepsFrom.not_crashed (h : m.StepsFrom c n) (hm : Bounded m) (hc : m.crashed = false) :
    n.crashed = false := by
  cases h with
  | step => exact hc
  | run hf _ h => exact (hm.run hc _ hf).not_crashed h

/-- A run takes all its steps, or ends with the first that fails. -/
theorem steps_cases (frame left : Nat) (m : Machine) :
    ((steps frame left 0 m).error = none ∧ (steps frame left 0 m).log = []) ∨
      ∃ j < left, (steps frame j 0 m).error = none ∧
        (steps frame j 0 m).machine.step.error ≠ none ∧
        steps frame left 0 m = (steps frame j 0 m).machine.step := by
  induction left with
  | zero => exact .inl ⟨rfl, rfl⟩
  | succ left ih =>
    rw [steps_add frame left 1]
    rcases ih with ⟨hn, -⟩ | ⟨j, hj, hn, he, heq⟩
    · rw [Outcome.andThen_of_done hn, steps_succ]
      cases hs : (steps frame left 0 m).machine.step.error with
      | none =>
        rw [Outcome.andThen_of_done hs]
        exact .inl ⟨rfl, rfl⟩
      | some e =>
        rw [Outcome.andThen_of_error hs]
        exact .inr ⟨left, Nat.lt_succ_self left, hn, by rw [hs]; exact Option.some_ne_none e, rfl⟩
    · obtain ⟨e, hs⟩ := Option.ne_none_iff_exists'.1 (heq ▸ he)
      rw [Outcome.andThen_of_error hs]
      exact .inr ⟨j, Nat.lt_succ_of_lt hj, hn, he, heq⟩

/-! ## What a crashed machine still takes -/

/-- The machine stands crashed as `left` does, but for timers, keypad and the memory that programs
are loaded to. -/
structure Frozen (left m : Machine) : Prop where
  crashed : m.crashed = true
  eq : ∃ memory delay sound keypad, m = { left with memory, delay, sound, keypad }
  below : ∀ a : Int, a < programStart → m.memory.read? a = left.memory.read? a

/-- What an operation changed of these, it changed because it is there for that. -/
structure ChangedBy (m : Machine) (c : Call) (m' : Machine) : Prop where
  timers : m'.delay ≠ m.delay ∨ m'.sound ≠ m.sound → c = .tick
  keypad : m'.keypad ≠ m.keypad → ∃ key down, c = .setKey key down
  memory : ∀ a, m'.memory.read? a ≠ m.memory.read? a →
    programStart ≤ a ∧ ∃ p, c = .load p ∧ (m.load p).error = none

theorem ChangedBy.refl (m : Machine) (c : Call) : ChangedBy m c m where
  timers h := by rcases h with h | h <;> exact absurd rfl h
  keypad h := absurd rfl h
  memory _ h := absurd rfl h

theorem run_of_crashed (hc : m.crashed = true) {cycles frame : Int} (h1 : 1 ≤ cycles)
    (hf : 1 ≤ frame) : m.run cycles frame = .fail m (.fault (.halted m.pc)) := by
  obtain ⟨k, hk⟩ : ∃ k, cycles.toNat = k + 1 := ⟨cycles.toNat - 1, by omega⟩
  have hs := step_of_crashed hc
  rw [run_eq_steps hf, hk, steps_succ, hs]
  rfl

/-- However long a run is meant to be, it finds nothing to do. -/
theorem exists_run_of_crashed (hc : m.crashed = true) (cycles frame : Int) :
    ∃ error, m.run cycles frame = { machine := m, error } := by
  by_cases hf : frame < 1
  · exact ⟨_, if_pos hf⟩
  · by_cases h1 : 1 ≤ cycles
    · exact ⟨_, run_of_crashed hc h1 (by omega)⟩
    · rw [run_eq_steps (by omega), show cycles.toNat = 0 by omega]
      exact ⟨none, rfl⟩

/-- A load changes memory where programs go, and only if it succeeds. -/
theorem load_cases (m : Machine) (p : Program) :
    (m.load p).machine = m ∨
      (m.load p).error = none ∧ ∃ memory, (m.load p).machine = { m with memory } ∧
        ∀ a : Int, a < programStart → memory.read? a = m.memory.read? a := by
  unfold load
  split
  · exact .inl rfl
  · next bs _ =>
    split
    · exact .inl rfl
    · refine .inr ⟨rfl, _, rfl, fun a ha => ?_⟩
      rw [Memory.read?_store _ (by decide), if_neg (by omega)]

/-- An operation on a crashed machine. -/
theorem apply_of_crashed (hc : m.crashed = true) (ho : c.isOngoing = true) :
    Frozen m (m.apply c).machine ∧ ChangedBy m c (m.apply c).machine := by
  have hrefl : Frozen m m := ⟨hc, ⟨_, _, _, _, rfl⟩, fun _ _ => rfl⟩
  cases c with
  | step =>
    rw [apply, step_of_crashed hc]
    exact ⟨hrefl, .refl m _⟩
  | run cycles frame =>
    obtain ⟨error, hrun⟩ := exists_run_of_crashed hc cycles frame
    rw [apply, hrun]
    exact ⟨hrefl, .refl m _⟩
  | tick => exact ⟨⟨hc, ⟨_, _, _, _, rfl⟩, fun _ _ => rfl⟩,
      { ChangedBy.refl m .tick with timers := fun _ => rfl }⟩
  | setKey key down =>
    obtain ⟨keypad, hk⟩ := m.machine_setKey key down
    rw [apply, hk]
    exact ⟨⟨hc, ⟨_, _, _, _, rfl⟩, fun _ _ => rfl⟩,
      { ChangedBy.refl m (.setKey key down) with keypad := fun _ => ⟨key, down, rfl⟩ }⟩
  | load p =>
    rcases m.load_cases p with hl | ⟨he, memory, hl, hbelow⟩
    · rw [apply, hl]
      exact ⟨hrefl, .refl m _⟩
    · rw [apply, hl]
      refine ⟨⟨hc, ⟨_, _, _, _, rfl⟩, hbelow⟩,
        { ChangedBy.refl m (.load p) with memory := fun a ha => ⟨?_, p, rfl, he⟩ }⟩
      exact Int.not_lt.1 fun hlt => ha (hbelow a hlt)
  | reset | execute => cases ho

theorem Frozen.trans {k : Machine} (h : Frozen left m) (h' : Frozen m k) : Frozen left k := by
  obtain ⟨-, ⟨_, _, _, _, rfl⟩, hb⟩ := h
  obtain ⟨hc, ⟨_, _, _, _, rfl⟩, hb'⟩ := h'
  exact ⟨hc, ⟨_, _, _, _, rfl⟩, fun a ha => (hb' a ha).trans (hb a ha)⟩

theorem Frozen.pc_eq (h : Frozen left m) : m.pc = left.pc := by
  obtain ⟨-, ⟨_, _, _, _, rfl⟩, -⟩ := h
  rfl

theorem frozen_applyAll (hc : m.crashed = true) {cs : List Call}
    (hcs : ∀ c ∈ cs, c.isOngoing = true) : Frozen m (m.applyAll cs) := by
  induction cs generalizing m with
  | nil => exact ⟨hc, ⟨_, _, _, _, rfl⟩, fun _ _ => rfl⟩
  | cons c cs ih =>
    have hf := (apply_of_crashed hc (hcs c List.mem_cons_self)).1
    exact hf.trans (ih hf.crashed fun d hd => hcs d (List.mem_cons_of_mem c hd))

/-! ## The log -/

def logAll (m : Machine) : List Call → List Log.Entry
  | [] => []
  | c :: cs => (m.apply c).log ++ (m.apply c).machine.logAll cs

/-- The entry for a fault of the next step: whether a word was fetched before. -/
inductive Reported (m : Machine) (f : Fault) : Log.Entry → Prop
  | fetch (h : 4095 ≤ m.pc) : Reported m f (.fetchFailed m.pc f)
  | execution {w : Nat} (h : m.pc < 4095) (hw : m.memory.word? m.pc = some w) :
    Reported m f (.crashed w m.pc f)

/-- A step that fails logs one line, which names the fault. -/
theorem Bounded.log_step (hb : Bounded n) (hc : n.crashed = false) (he : n.step.error ≠ none) :
    ∃ f entry, n.step.error = some (.fault f) ∧ n.step.log = [entry] ∧ n.Reported f entry := by
  have hw : n.waiting = false := by
    refine Bool.eq_false_iff.2 fun hw => he ?_
    rw [step_of_waiting hc hw]
    rfl
  have hr : n.Ready := ⟨hc, hw⟩
  rcases n.fetch_cases with hno | ⟨w, hw', hu⟩ | ⟨op, w, hm⟩
  · have hp := hb.pc_nonneg
    have ha := Memory.word?_eq_none.1 hno
    rw [hr.step_of_no_word hno]
    exact ⟨_, _, rfl, rfl, .fetch (by omega)⟩
  · have ha := Memory.bounds_of_word? hw'
    rw [hr.step_of_unknown hw' hu]
    exact ⟨_, _, rfl, rfl, .execution (by omega) hw'⟩
  · have ha := hm.pc_bounds
    obtain ⟨e, hs⟩ := Option.ne_none_iff_exists'.1 (hr.error_step hm ▸ he)
    obtain ⟨-, f, rfl⟩ := (hb.attempt hr hm).fault e hs
    rw [hr.step_of_fault hm hs]
    exact ⟨_, _, rfl, rfl, .execution (by omega) hm.1⟩

theorem errors_setKey (m : Machine) (key : Int) (down : Bool) :
    errors (m.setKey key down).log = [] := by
  unfold setKey
  split <;> rfl

theorem errors_load (m : Machine) (p : Program) : errors (m.load p).log = [] := by
  unfold load
  split
  · rfl
  · split <;> rfl

theorem errors_apply_of_crashed (hc : m.crashed = true) (ho : c.isOngoing = true) :
    errors (m.apply c).log = [] := by
  cases c with
  | step =>
    rw [apply, step_of_crashed hc]
    rfl
  | run cycles frame =>
    obtain ⟨error, hrun⟩ := exists_run_of_crashed hc cycles frame
    rw [apply, hrun]
    rfl
  | tick => rfl
  | setKey key down => exact errors_setKey m key down
  | load p => exact errors_load m p
  | reset | execute => cases ho

theorem errors_logAll_of_crashed (hc : m.crashed = true) {cs : List Call}
    (hcs : ∀ c ∈ cs, c.isOngoing = true) : errors (m.logAll cs) = [] := by
  induction cs generalizing m with
  | nil => rfl
  | cons c cs ih =>
    have ho := hcs c List.mem_cons_self
    rw [logAll, errors_append, errors_apply_of_crashed hc ho,
      ih (apply_of_crashed hc ho).1.crashed fun d hd => hcs d (List.mem_cons_of_mem c hd)]
    rfl

/-- In the course of an operation, the step of `n` fails, and the fault is told in the log. -/
structure Crashes (m : Machine) (c : Call) (n : Machine) (f : Fault) (entry : Log.Entry) :
    Prop where
  stepsFrom : m.StepsFrom c n
  not_crashed : n.crashed = false
  error : n.step.error = some (.fault f)
  log : n.step.log = [entry]
  apply_eq : m.apply c = n.step
  reported : n.Reported f entry

theorem StepsFrom.crashes (h : m.StepsFrom c n) (hb : Bounded n) (hc : n.crashed = false)
    (he : n.step.error ≠ none) : ∃ f entry, m.Crashes c n f entry := by
  obtain ⟨f, entry, hf, hlog, hr⟩ := hb.log_step hc he
  exact ⟨f, entry, h, hc, hf, hlog, h.apply_eq he, hr⟩

theorem Crashes.level_eq {f : Fault} {entry : Log.Entry} (h : m.Crashes c n f entry) :
    entry.level = .error := by
  cases h.reported <;> rfl

/-- An operation either leaves the machine running and reports no error in the log, or a step of it
crashes the machine. -/
theorem apply_cases (hm : Reachable m) (hc : m.crashed = false) (ho : c.isOngoing = true) :
    ((m.apply c).machine.crashed = false ∧ errors (m.apply c).log = []) ∨
      ∃ n f entry, m.Crashes c n f entry := by
  have hb := hm.bounded
  -- a step of `n` that fails in the course of the operation is the second case
  have hfail : ∀ n, m.StepsFrom c n → n.step.error ≠ none → ∃ n f entry, m.Crashes c n f entry :=
    fun n hs he => ⟨n, hs.crashes (hs.reachable hm).bounded (hs.not_crashed hb hc) he⟩
  cases c with
  | step =>
    by_cases he : m.step.error = none
    · exact .inl ⟨hb.step.not_crashed he, by rw [apply, log_step_of_error_eq_none he]; rfl⟩
    · exact .inr (hfail m .step he)
  | run cycles frame =>
    by_cases hf : frame < 1
    · rw [apply, run, if_pos hf]
      exact .inl ⟨hc, rfl⟩
    have hrun := run_eq_steps (Int.not_lt.1 hf) m
    rcases m.steps_cases frame.toNat cycles.toNat with ⟨hn, hlog⟩ | ⟨j, hj, hn, he, -⟩
    · rw [← hrun] at hn hlog
      refine .inl ⟨(hb.run hc cycles (by omega)).not_crashed hn, ?_⟩
      rw [apply, hlog]
      rfl
    · have hj' : m.run j frame = steps frame.toNat j 0 m := hrun j
      rw [← hj'] at hn he
      exact .inr (hfail _ (.run (by omega) (by omega) hn) he)
  | tick => exact .inl ⟨hc, rfl⟩
  | setKey key down =>
    obtain ⟨keypad, hk⟩ := m.machine_setKey key down
    exact .inl ⟨by rw [apply, hk]; exact hc, errors_setKey m key down⟩
  | load p =>
    obtain ⟨memory, hl⟩ := m.machine_load p
    exact .inl ⟨by rw [apply, hl]; exact hc, errors_load m p⟩
  | reset | execute => cases ho

/-- Operations without a reset leave no error in the log, or the one of the step that crashed the
machine. -/
theorem errors_logAll (hm : Reachable m) (hc : m.crashed = false) {cs : List Call}
    (hcs : ∀ c ∈ cs, c.isOngoing = true) :
    ((m.applyAll cs).crashed = false ∧ errors (m.logAll cs) = []) ∨
      ∃ before c after n f entry, cs = before ++ c :: after ∧
        (m.applyAll before).Crashes c n f entry ∧ errors (m.logAll cs) = [entry] := by
  induction cs generalizing m with
  | nil => exact .inl ⟨hc, rfl⟩
  | cons c cs ih =>
    have ho := hcs c List.mem_cons_self
    have hcs' : ∀ d ∈ cs, d.isOngoing = true := fun d hd => hcs d (List.mem_cons_of_mem c hd)
    rw [logAll, errors_append]
    rcases apply_cases hm hc ho with ⟨hc', hlog⟩ | ⟨n, f, entry, h⟩
    · rw [hlog, List.nil_append]
      rcases ih (hm.apply (Call.isPublic_of_isOngoing ho)) hc' hcs' with
        hnone | ⟨before, d, after, n, f, entry, rfl, h, he⟩
      · exact .inl hnone
      · exact .inr ⟨c :: before, d, after, n, f, entry, rfl, h, he⟩
    · -- all that follows finds the machine crashed
      have hc' : (m.apply c).machine.crashed = true := by
        rw [h.apply_eq]
        exact (h.stepsFrom.reachable hm).bounded.step.error_iff.1
          (by rw [h.error]; exact Option.some_ne_none _)
      refine .inr ⟨[], c, cs, n, f, entry, rfl, h, ?_⟩
      rw [errors_logAll_of_crashed hc' hcs', h.apply_eq, h.log]
      simp [errors, h.level_eq]

/-- A machine stops for good with a step that fails, whether an operation is that step or takes it
on the way: until it is reset, it stays crashed, refuses every step and every run that has a step to
take, each time at the program counter that was left, and keeps everything but what ticks, keys and
loads are there to change. Between two resets at most one line of the log is an error. It comes from
the first step that fails, and tells whether that step had a word to execute. -/
theorem fail_stop :
    (∀ (m n : Machine) (c : Call) (later : List Call), Reachable m → m.StepsFrom c n →
      n.step.error ≠ none → (∀ d ∈ later, d.isOngoing = true) →
      let left := (m.apply c).machine
      let last := left.applyAll later
      m.apply c = n.step ∧ Frozen left last ∧
      last.step = .fail last (.fault (.halted left.pc)) ∧
      (∀ cycles frame : Int, 1 ≤ cycles → 1 ≤ frame →
        last.run cycles frame = .fail last (.fault (.halted left.pc))) ∧
      ∀ d : Call, d.isOngoing = true → ChangedBy last d (last.apply d).machine) ∧
    ∀ (m : Machine) (cs : List Call), (∀ c ∈ cs, c.isOngoing = true) →
      let start := m.reset.machine
      ((start.applyAll cs).crashed = false ∧ errors (start.logAll cs) = []) ∨
        ∃ before c after n f entry, cs = before ++ c :: after ∧
          (start.applyAll before).Crashes c n f entry ∧ errors (start.logAll cs) = [entry] := by
  constructor
  · intro m n c later hm hs he hlater left last
    have heq := hs.apply_eq he
    have hc : left.crashed = true := by
      show (m.apply c).machine.crashed = true
      rw [heq]
      exact (hs.reachable hm).bounded.step.error_iff.1 he
    have hf : Frozen left last := frozen_applyAll hc hlater
    rw [← hf.pc_eq]
    exact ⟨heq, hf, step_of_crashed hf.crashed, fun _ _ => run_of_crashed hf.crashed,
      fun d hd => (apply_of_crashed hf.crashed hd).2⟩
  · intro m cs hcs start
    exact errors_logAll (reachable_fresh m.seed) rfl hcs

/-- A run that gets to a return from nowhere, and what is tried afterwards. -/
theorem fail_stop_return :
    let start := (fresh 7).reset.machine
    let rom : Call := .load (.bytes [0x60, 0x01, 0x00, 0xEE])
    let m := start.applyAll [rom]
    let n := (m.run 1 3).machine
    let later : List Call := [.setKey 3 true, .tick, .load (.bytes [0x12]), .step, .run 5 2]
    let last := (m.apply (.run 10 3)).machine.applyAll later
    let cs := rom :: .run 10 3 :: later
    (Reachable m ∧ m.StepsFrom (.run 10 3) n ∧ n.step.error ≠ none) ∧
      last.step = .fail last (.fault (.halted 0x204)) ∧
      ∃ before c after n f, cs = before ++ c :: after ∧
        (start.applyAll before).Crashes c n f (.crashed 0xEE 0x202 (.stackUnderflow 0x202)) := by
  intro start rom m n later last cs
  have hm : Reachable m := (reachable_fresh 7).applyAll [rom] (by decide)
  obtain ⟨hrun, he, hpc, hlog⟩ : (m.run 1 3).error = none ∧ n.step.error ≠ none ∧
      (m.apply (.run 10 3)).machine.pc = 0x204 ∧
      errors (start.logAll cs) = [.crashed 0xEE 0x202 (.stackUnderflow 0x202)] := by
    decide +kernel
  have hs : m.StepsFrom (.run 10 3) n := .run (j := 1) (by decide) (by decide) hrun
  obtain ⟨-, -, hstep, -⟩ := fail_stop.1 m n (.run 10 3) later hm hs he (by decide)
  refine ⟨⟨hm, hs, he⟩, hpc ▸ hstep, ?_⟩
  rcases fail_stop.2 (fresh 7) cs (by decide) with ⟨-, hnone⟩ |
    ⟨before, c, after, n, f, entry, hcs, hcrash, hentry⟩
  · cases hnone.symm.trans hlog
  · cases hentry.symm.trans hlog
    exact ⟨before, c, after, n, f, hcs, hcrash⟩

end Machine

end Chip8
