import Chip8.Proofs.AfterFault
import Chip8.Proofs.Chronicle
import Chip8.Proofs.KeyWait
import Chip8.Proofs.WriteSets

/-!
# What the cycles count

A step executes the instruction at the program counter, parks the machine on it, finds the key that
the machine is parked for, finds none, or fails. A tally of this beside the machine shows what its
cycles are: an instruction that has to wait for a key is counted twice, when the machine parks on it
and when the key comes, and every other instruction once. So the cycles are the instructions
completed only as long as none had to wait.
-/

namespace Chip8

/-- What a step comes to for the instruction at the program counter. -/
inductive Progress where
  /-- It is fetched and executed. -/
  | executed
  /-- It is fetched, and has to wait for a key. -/
  | parked
  /-- The key that it waits for is there. -/
  | resumed
  /-- It has to wait on. -/
  | idle
  /-- It fails, or an earlier one did. -/
  | failed
deriving DecidableEq, Repr

/-- How often steps came to what. -/
structure Tally where
  executed : Nat := 0
  parked : Nat := 0
  resumed : Nat := 0
deriving DecidableEq, Repr

namespace Tally

def add (t : Tally) : Progress → Tally
  | .executed => { t with executed := t.executed + 1 }
  | .parked => { t with parked := t.parked + 1 }
  | .resumed => { t with resumed := t.resumed + 1 }
  | .idle | .failed => t

/-- The instructions completed, each of them once: at the step that executes it or, if it has to
wait for a key, at the step that finds one. -/
def completed (t : Tally) : Nat := t.executed + t.resumed

end Tally

namespace Machine

def progress (m : Machine) : Progress :=
  if m.step.error ≠ none then .failed
  else if m.waiting then if m.Idle then .idle else .resumed
  else if m.next?.map Instruction.op = some .waitKey ∧ m.Idle then .parked
  else .executed

/-- The tally since the last reset. -/
def tally : Chronicle Tally where
  start := {}
  step m t := t.add m.progress

end Machine

/-- How it shows in cycles and wait what a step of `m` that leaves `m'` has come to. -/
inductive Progress.Shows (m m' : Machine) : Progress → Prop
  | executed (hc : m'.cycles = m.cycles + 1) (hw : m.waiting = false) (hw' : m'.waiting = false) :
    Shows m m' .executed
  | parked (hc : m'.cycles = m.cycles + 1) (hw : m.waiting = false) (hw' : m'.waiting = true) :
    Shows m m' .parked
  | resumed (hc : m'.cycles = m.cycles + 1) (hw : m.waiting = true) (hw' : m'.waiting = false) :
    Shows m m' .resumed
  | idle (hc : m'.cycles = m.cycles) (hw : m'.waiting = m.waiting) : Shows m m' .idle
  | failed (hc : m'.cycles = m.cycles) (hw : m'.waiting = m.waiting) : Shows m m' .failed

namespace Machine

variable {m : Machine} {op : Op} {w : Nat}

/-! ## One step -/

/-- `_poll_keypad` counts if it finds a key. -/
theorem shows_poll (hw : m.waiting = true) :
    (if m.Idle then Progress.idle else .resumed).Shows m m.poll := by
  unfold poll
  by_cases hk : m.Idle
  · rw [if_pos hk, pressedKey?_eq_none.2 hk]
    exact .idle rfl rfl
  · obtain ⟨k, hs⟩ := exists_pressedKey hk
    rw [if_neg hk, hs]
    exact .resumed rfl hw rfl

namespace Ready

/-- An instruction that does not fail counts, also if it parks the machine. -/
theorem cycles_step (hr : m.Ready) (hb : Bounded m) (h : m.Meets op w)
    (ha : (m.attempt op w).error = none) : m.step.machine.cycles = m.cycles + 1 := by
  have hc := ((hb.fetched hr h.1).effect_execute (.ofWord op w)).cycles_eq
  rw [hr.step_of_done h ha]
  exact congrArg (· + 1) hc

/-- Only an instruction that waits for a key and finds none makes the machine wait. -/
theorem waiting_step (hr : m.Ready) (hb : Bounded m) (h : m.Meets op w)
    (hk : ¬ (op = .waitKey ∧ m.Idle)) : m.step.machine.waiting = false := by
  by_cases hop : op = .waitKey
  · subst hop
    obtain ⟨k, hs⟩ := exists_pressedKey fun hi => hk ⟨rfl, hi⟩
    rw [hr.step_of_pressed h hs]
    exact hr.not_waiting
  · have he := (hb.fetched hr h.1).effect_execute (.ofWord op w)
    obtain ⟨crashed, cycles, hs⟩ := hr.machine_step h
    have hw : (m.attempt op w).machine.waiting = m.waiting :=
      Decidable.byContradiction fun hne => hop (he.wait_ne (.inl hne))
    rw [hs]
    exact hw.trans hr.not_waiting

theorem shows_step (hr : m.Ready) (hb : Bounded m) (he : m.step.error = none) :
    (if m.next?.map Instruction.op = some .waitKey ∧ m.Idle then Progress.parked
      else .executed).Shows m m.step.machine := by
  obtain ⟨op, w, hm, ha⟩ := hr.exists_meets he
  have hc := hr.cycles_step hb hm ha
  have hop : m.next?.map Instruction.op = some .waitKey ↔ op = .waitKey := by
    rw [hr.next?_of_meets hm]
    exact Option.some_inj
  by_cases hk : op = .waitKey ∧ m.Idle
  · obtain ⟨rfl, hi⟩ := hk
    rw [if_pos ⟨hop.2 rfl, hi⟩]
    exact .parked hc hr.not_waiting (by rw [hr.step_of_idle hm hi]; rfl)
  · rw [if_neg fun h => hk ⟨hop.1 h.1, h.2⟩]
    exact .executed hc hr.not_waiting (hr.waiting_step hb hm hk)

end Ready

/-- What a step comes to shows in the machine. -/
theorem shows_progress (hb : Bounded m) : m.progress.Shows m m.step.machine := by
  unfold progress
  by_cases he : m.step.error = none
  · have hc := not_crashed_of_error_eq_none he
    rw [if_neg (fun hne => hne he)]
    cases hw : m.waiting with
    | true =>
      rw [if_pos rfl, step_of_waiting hc hw]
      exact shows_poll hw
    | false =>
      rw [if_neg Bool.false_ne_true]
      exact Ready.shows_step ⟨hc, hw⟩ hb he
  · rw [if_pos he]
    obtain ⟨_, _, _, _, _, hs⟩ := exists_machine_of_error hb he
    rw [hs]
    exact .failed rfl rfl

/-! ## Runs -/

/-- The cycles are all that was counted, and an instruction that had to wait for a key has got it,
but for the one that the machine is waiting with. -/
structure Counted (m : Machine) (t : Tally) : Prop where
  cycles : m.cycles = t.executed + t.parked + t.resumed
  parked : t.parked = t.resumed + if m.waiting then 1 else 0

variable {t : Tally}

theorem counted_fresh (seed : Nat) : Counted (fresh seed) {} := ⟨rfl, rfl⟩

namespace Counted

theorem keep (h : Counted m t) {m' : Machine} (hc : m'.cycles = m.cycles)
    (hw : m'.waiting = m.waiting) : Counted m' t := by
  constructor
  · rw [hc, h.cycles]
  · rw [hw, h.parked]

theorem add (h : Counted m t) {p : Progress} {m' : Machine} (hp : p.Shows m m') :
    Counted m' (t.add p) := by
  obtain ⟨hcycles, hparked⟩ := h
  cases hp with
  | executed hc hw hw' | parked hc hw hw' | resumed hc hw hw' =>
    rw [hw] at hparked
    constructor
    · simp only [Tally.add]
      omega
    · simp only [Tally.add, hw', hparked, Bool.false_eq_true, if_true, if_false, Nat.add_zero]
  | idle hc hw | failed hc hw => exact keep ⟨hcycles, hparked⟩ hc hw

end Counted

theorem counted_applyAll (seed : Nat) {ops : List Call} (hops : ∀ op ∈ ops, op.isPublic = true) :
    Counted ((fresh seed).applyAll ops) (tally.applyAll (fresh seed) {} ops) :=
  tally.applyAll_induction counted_fresh (fun _ _ hb h => h.add (shows_progress hb))
    (fun _ _ h _ _ _ _ => h.keep rfl rfl) seed hops

/-- After any operations the cycles are the instructions completed and, besides, once more those
that had to wait for a key, from the step that parked the machine on. Hence they are the number of
instructions completed exactly if no instruction had to wait since the last reset. -/
theorem cycles_eq_completed_add_parked (seed : Nat) {ops : List Call}
    (hops : ∀ op ∈ ops, op.isPublic = true) :
    let m := (fresh seed).applyAll ops
    let t := tally.applyAll (fresh seed) {} ops
    m.cycles = t.completed + t.parked ∧
      (t.parked = t.resumed + if m.waiting then 1 else 0) ∧
      (m.cycles = t.completed ↔ t.parked = 0) := by
  intro m t
  have h : Counted m t := counted_applyAll seed hops
  have hall : m.cycles = t.completed + t.parked := by
    rw [h.cycles, Tally.completed]
    omega
  exact ⟨hall, h.parked, by omega⟩

/-- Within a run, an instruction waits, gets its key, and a second one waits behind it. -/
theorem cycles_eq_completed_add_parked_twice :
    let ops : List Call := [.load (.bytes [0xF0, 0x0A, 0x61, 0x07, 0xF2, 0x0A]), .run 3 2,
      .setKey 5 true, .step, .setKey 5 false, .run 3 1]
    let m := (fresh 0).applyAll ops
    let t := tally.applyAll (fresh 0) {} ops
    ((∀ op ∈ ops, op.isPublic = true) ∧ m.waiting = true ∧ t = ⟨1, 2, 1⟩) ∧
      m.cycles = t.completed + t.parked ∧ m.cycles = 4 ∧ m.cycles ≠ t.completed := by
  intro ops m t
  have hops : ∀ op ∈ ops, op.isPublic = true := by decide
  obtain ⟨hw, ht⟩ : m.waiting = true ∧ t = ⟨1, 2, 1⟩ := by decide +kernel
  obtain ⟨hall, -, hiff⟩ :
      m.cycles = t.completed + t.parked ∧ _ ∧ (m.cycles = t.completed ↔ t.parked = 0) :=
    cycles_eq_completed_add_parked 0 hops
  refine ⟨⟨hops, hw, ht⟩, hall, ?_, fun heq => ?_⟩
  · rw [hall, ht]
    rfl
  · have hp := hiff.1 heq
    rw [ht] at hp
    cases hp

/-- One instruction, which waits until a key comes, makes two cycles. -/
theorem cycles_ne_completed_of_wait :
    let ops : List Call := [.load (.bytes [0xF0, 0x0A]), .step, .setKey 5 true, .step]
    let m := (fresh 0).applyAll ops
    let t := tally.applyAll (fresh 0) {} ops
    (∀ op ∈ ops, op.isPublic = true) ∧ m.pc = 0x202 ∧ t.completed = 1 ∧ m.cycles = 2 := by
  decide +kernel

end Machine

end Chip8
