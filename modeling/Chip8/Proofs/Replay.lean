import Chip8.Proofs.Answers

/-!
# Sessions as replays

What a window makes of its events can be had without it. Which of the events run a frame of the
machine, and which press or release a key, is read off the events alone; the machine of the window
is at any time the bare machine behind these operations, and the error that the window keeps is the
first of theirs. There is never more than one frame to come, and after the toolkit has gone away at
most one is run.
-/

namespace Chip8

namespace Machine

def firstError? (m : Machine) : List Call → Option Error
  | [] => none
  | c :: cs => (m.apply c).error.or ((m.apply c).machine.firstError? cs)

theorem firstError?_append (m : Machine) (cs ds : List Call) :
    m.firstError? (cs ++ ds) = (m.firstError? cs).or ((m.applyAll cs).firstError? ds) := by
  induction cs generalizing m with
  | nil => rfl
  | cons c cs ih =>
    rw [List.cons_append, firstError?, firstError?, ih, Option.or_assoc]
    rfl

end Machine

namespace Window

open Machine (Bounded fresh)

/-! ## Events without a window -/

/-- A frame as an operation: its steps with a tick behind them, or the tick alone. -/
def frameCall (t : Int) : Call := if t < 1 then .tick else .run t t

/-- What events have come to: frames are run and more are asked for, or a last one is to come
because the toolkit has gone away, or none. -/
inductive Phase where
  | running | orphaned | closed
deriving DecidableEq

def Phase.next (phase : Phase) : Event → Phase
  | .frame => if phase = .orphaned then .closed else phase
  | .close => .closed
  | .press symbol => if symbol = "Escape" then .closed else phase
  | .release _ => phase
  | .kill => if phase = .running then .orphaned else phase

def phaseAfter (events : List Event) : Phase := events.foldl Phase.next .running

/-- What an event is for the machine alone. -/
def eventCalls (t : Int) (phase : Phase) : Event → List Call
  | .frame => if phase = .closed then [] else [frameCall t]
  | .press symbol => if symbol = "Escape" then [] else keyCalls symbol true
  | .release symbol => keyCalls symbol false
  | .close | .kill => []

def replayFrom (t : Int) : Phase → List Event → List Call
  | _, [] => []
  | phase, e :: es => eventCalls t phase e ++ replayFrom t (phase.next e) es

/-- What a session is for the machine alone: the first frame, and the events. -/
def replay (t : Int) (events : List Event) : List Call :=
  frameCall t :: replayFrom t .running events

/-! ## Windows behind events -/

def afterAll (w : Window) (events : List Event) : Window :=
  events.foldl (fun w e => (w.handle e).window) w

/-- The number of frames that were asked for and have not come, with `n` of them to begin with. -/
def owed (w : Window) (n : Nat) : List Event → Nat
  | [] => n
  | e :: es =>
    let r := w.handle e
    r.window.owed ((if e = .frame then n - 1 else n) + r.asked) es

/-- The number of events that run a frame. -/
def framesRun (w : Window) : List Event → Nat
  | [] => 0
  | e :: es =>
    (if e = .frame ∧ w.pending = true ∧ w.closing = false then 1 else 0) +
      (w.handle e).window.framesRun es

/-- The window shows the machine that the operations make of `m`, and keeps their first error. -/
structure Tracks (m : Machine) (calls : List Call) (w : Window) : Prop where
  machine : w.machine = m.applyAll calls
  error : w.error.map .fault = m.firstError? calls
  error_iff : w.error ≠ none ↔ w.machine.crashed = true

variable {w : Window} {m : Machine} {t : Int} {phase : Phase} {calls : List Call} {e : Event}
  {r : Reply}

theorem Tracks.error_eq_none (h : Tracks m calls w) (hc : w.machine.crashed = false) :
    w.error = none :=
  Classical.byContradiction fun he => Bool.eq_false_iff.1 hc (h.error_iff.1 he)

/-! ## The machine -/

/-- A window that tracks a machine and can go on to. -/
structure Faithful (m : Machine) (t : Int) (calls : List Call) (w : Window) : Prop
    extends Tracks m calls w where
  bounded : Bounded w.machine
  ticks : w.ticksPerFrame = t
  /-- Without steps nothing fails. -/
  ticks_of_crashed : w.machine.crashed = true → 1 ≤ t

/-- A frame as an operation is what `run_frame` does to the machine. -/
theorem apply_frameCall (m : Machine) (t : Int) :
    m.apply (frameCall t) = (stepUpTo t.toNat m).andThen fun m => .done m.tick := by
  unfold frameCall
  split
  · rw [show t.toNat = 0 by omega]
    rfl
  · rw [Machine.apply, Machine.run_eq_steps (by omega),
      Machine.steps_frame (by omega) (Nat.zero_mod _)]

theorem stepUpTo_of_crashed {n : Nat} (hn : 0 < n) (hc : m.crashed = true) :
    stepUpTo n m = .fail m (.fault (.halted m.pc)) := by
  obtain ⟨k, rfl⟩ : ∃ k, n = k + 1 := ⟨n - 1, by omega⟩
  rw [Machine.stepUpTo_succ, Machine.step_of_crashed hc]
  rfl

/-- A window goes along with an operation on the machine alone. -/
theorem Tracks.snoc {w' : Window} {c : Call} (h : Tracks m calls w)
    (hm : w'.machine = (w.machine.apply c).machine)
    (he : w'.error.map .fault = (w.error.map .fault).or (w.machine.apply c).error)
    (hi : w'.error ≠ none ↔ w'.machine.crashed = true) : Tracks m (calls ++ [c]) w' where
  machine := by
    rw [hm, h.machine, Machine.applyAll_append]
    rfl
  error := by
    rw [he, h.error, h.machine, Machine.firstError?_append]
    simp only [Machine.firstError?, Option.or_none]
  error_iff := hi

/-- `run_frame` goes along with a frame on the machine alone. -/
theorem Faithful.advance (h : Faithful m t calls w) :
    Faithful m t (calls ++ [frameCall t]) w.advance.window := by
  obtain rfl := h.ticks
  have hcall : w.machine.apply (frameCall w.ticksPerFrame) =
      w.stepped.andThen fun m => .done m.tick := apply_frameCall w.machine w.ticksPerFrame
  rcases advance_cases h.bounded with hc | ⟨hc, he, hc'⟩ | ⟨hc, hc', f, he⟩
  · -- the machine alone refuses the frame, after an error that came before
    have h1 := h.ticks_of_crashed hc
    obtain ⟨f, hf⟩ := Option.ne_none_iff_exists'.1 (h.error_iff.2 hc)
    rw [stepped, stepUpTo_of_crashed (by omega) hc] at hcall
    rw [advance_of_crashed hc]
    refine { h with toTracks := h.toTracks.snoc ?_ ?_ h.error_iff }
    · rw [hcall]
      rfl
    · rw [hf]
      rfl
  · have hn : w.error = none := h.error_eq_none hc
    have hx := Bool.eq_false_iff.1 hc'
    rw [Outcome.andThen_of_done he] at hcall
    rw [advance_of_done hc he]
    refine { h with
      toTracks := h.toTracks.snoc ?_ ?_ ?_
      bounded := (h.bounded.stepUpTo hc _).bounded.tick
      ticks_of_crashed := fun hx' => absurd hx' hx }
    · rw [hcall]
      rfl
    · rw [hcall, hn]
      rfl
    · exact ⟨fun hne => absurd hn hne, fun hx' => absurd hx' hx⟩
  · rw [Outcome.andThen_of_error he] at hcall
    rw [advance_of_fault hc he]
    refine { h with
      toTracks := h.toTracks.snoc ?_ ?_ ?_
      bounded := (h.bounded.stepUpTo hc _).bounded
      ticks_of_crashed := fun _ => Int.not_lt.1 fun hlt => ?_ }
    · rw [hcall]
    · rw [hcall, h.error_eq_none hc, he]
      rfl
    · exact ⟨fun _ => hc', fun _ => Option.some_ne_none _⟩
    · rw [stepped, show w.ticksPerFrame.toNat = 0 by omega] at he
      cases he

theorem Faithful.keys (h : Faithful m t calls w) (symbol : String) (down : Bool) :
    Faithful m t (calls ++ keyCalls symbol down)
      { w with machine := w.machine.applyAll (keyCalls symbol down) } := by
  unfold keyCalls
  cases Keyboard.key? symbol with
  | none =>
    rw [List.append_nil]
    exact h
  | some key =>
    have hcall : w.machine.apply (.setKey key.val down) =
        .done { w.machine with keypad := w.machine.keypad.write key down } := by
      rw [Machine.apply, Machine.setKey, Nibble.ofInt?_eq_some.2 rfl]
    rw [show w.machine.applyAll [.setKey key.val down] = _ from congrArg Outcome.machine hcall]
    refine { h with
      toTracks := h.toTracks.snoc (congrArg Outcome.machine hcall).symm ?_ h.error_iff
      bounded := { h.bounded with } }
    rw [hcall]
    exact (Option.or_none ..).symm

/-! ## Phases -/

/-- The window is in a phase and tracks a machine. -/
structure Mirrors (m : Machine) (t : Int) (phase : Phase) (calls : List Call) (w : Window) : Prop
    extends Faithful m t calls w where
  closing : w.closing = true ↔ phase = .closed
  pending : phase ≠ .closed → w.pending = true
  alive : phase ≠ .closed → (w.alive = true ↔ phase = .running)

/-- In the last phase neither frames to come nor the toolkit matter. -/
theorem Mirrors.of_closed (h : Faithful m t calls w) (hc : w.closing = true) :
    Mirrors m t .closed calls w :=
  { h with
    closing := ⟨fun _ => rfl, fun _ => hc⟩
    pending := fun hx => absurd rfl hx
    alive := fun hx => absurd rfl hx }

theorem Mirrors.phase_eq (h : Mirrors m t phase calls w) (hc : w.closing = false) :
    phase = if w.alive then .running else .orphaned := by
  have hx : phase ≠ .closed := fun hx => by
    rw [h.closing.2 hx] at hc
    cases hc
  have ha := h.alive hx
  cases phase with
  | running => rw [ha.2 rfl, if_pos rfl]
  | orphaned => rw [if_neg fun hf => nomatch ha.1 hf]
  | closed => exact absurd rfl hx

/-- Every event brings the window to the next phase, and the machine with it. -/
theorem Mirrors.answer (h : Mirrors m t phase calls w) (ha : Answer w e r) :
    Mirrors m t (phase.next e) (calls ++ eventCalls t phase e) r.window := by
  cases ha with
  | unasked hp =>
    have hx : phase = .closed := Classical.byContradiction fun hx => by
      rw [h.pending hx] at hp
      cases hp
    subst hx
    rw [eventCalls, if_pos rfl, List.append_nil]
    exact h
  | late hp hc =>
    have hx := h.closing.1 hc
    subst hx
    rw [eventCalls, if_pos rfl, List.append_nil]
    exact .of_closed { h.toFaithful with } hc
  | frame hp hc ha hw =>
    have hx := h.phase_eq hc
    rw [if_pos ha] at hx
    subst hx
    have hadvance := h.toFaithful.advance
    obtain ⟨machine, error, hwindow⟩ := w.advance_window
    rw [hw]
    rw [hwindow] at hadvance ⊢
    exact { hadvance with closing := h.closing, pending := h.pending, alive := h.alive }
  | refused hp hc ha hw =>
    have hx := h.phase_eq hc
    rw [ha, if_neg Bool.false_ne_true] at hx
    subst hx
    rw [hw]
    exact .of_closed { h.toFaithful.advance with } rfl
  | close =>
    rw [window_close, eventCalls, List.append_nil]
    exact .of_closed { h.toFaithful with } rfl
  | escape =>
    rw [window_close, eventCalls, if_pos rfl, List.append_nil]
    exact .of_closed { h.toFaithful with } rfl
  | press hs =>
    rw [eventCalls, if_neg hs, Phase.next, if_neg hs]
    exact { h.toFaithful.keys _ true with
      closing := h.closing, pending := h.pending, alive := h.alive }
  | release symbol =>
    exact { h.toFaithful.keys symbol false with
      closing := h.closing, pending := h.pending, alive := h.alive }
  | kill =>
    rw [eventCalls, List.append_nil]
    refine { h.toFaithful with closing := ?_, pending := ?_, alive := ?_ }
    all_goals
      have hc := h.closing
      have hp := h.pending
      cases phase <;> simp_all [Phase.next]

theorem Mirrors.handle (h : Mirrors m t phase calls w) (e : Event) :
    Mirrors m t (phase.next e) (calls ++ eventCalls t phase e) (w.handle e).window :=
  h.answer (answer_handle h.bounded e)

theorem Mirrors.afterAll (h : Mirrors m t phase calls w) (es : List Event) :
    Mirrors m t (es.foldl Phase.next phase) (calls ++ replayFrom t phase es) (w.afterAll es) := by
  induction es generalizing phase calls w with
  | nil =>
    rw [replayFrom, List.append_nil]
    exact h
  | cons e es ih =>
    rw [replayFrom, ← List.append_assoc]
    exact ih (h.handle e)

/-- The window as its loop begins. The first frame comes before any event, as if the toolkit had
been asked for it. -/
def due (w : Window) : Window := { w with pending := true }

theorem handle_due (hp : w.pending = false) : w.due.handle .frame = w.frame := by
  obtain ⟨machine, scale, ticksPerFrame, error, closing, pending, alive⟩ := w
  cases hp
  rfl

theorem mirrors_due (hm : Bounded m) (hc : m.crashed = false) (scale t : Int) (title : String) :
    Mirrors m t .running [] (create m scale t title).window.due where
  machine := rfl
  error := rfl
  error_iff := ⟨fun hx => absurd rfl hx, fun hx => absurd hx (Bool.eq_false_iff.1 hc)⟩
  bounded := hm
  ticks := rfl
  ticks_of_crashed hx := absurd hx (Bool.eq_false_iff.1 hc)
  closing := ⟨nofun, nofun⟩
  pending _ := rfl
  alive _ := ⟨fun _ => rfl, fun _ => rfl⟩

theorem mirrors_loaded (seed : Nat) (p : Program) (scale t : Int) (title : String) :
    Mirrors ((fresh seed).load p).machine t .running []
      (create ((fresh seed).load p).machine scale t title).window.due := by
  refine mirrors_due ((Machine.bounded_fresh seed).load p) ?_ scale t title
  obtain ⟨memory, hl⟩ := (fresh seed).machine_load p
  rw [hl]
  rfl

/-- After the first frame, events come. -/
theorem mirrors_frame_create (hm : Bounded m) (hc : m.crashed = false) (scale t : Int)
    (title : String) :
    Mirrors m t .running [frameCall t] (create m scale t title).window.frame.window := by
  rw [← handle_due rfl]
  exact (mirrors_due hm hc scale t title).handle .frame

/-! ## Frames to come and frames run -/

/-- One frame is to come if the window says so, and none otherwise. -/
theorem Answer.owed_eq (h : Answer w e r) :
    (if e = .frame then w.pending.toNat - 1 else w.pending.toNat) + r.asked =
      r.window.pending.toNat := by
  cases h with
  | unasked hp =>
    rw [if_pos rfl, hp]
    rfl
  | late hp =>
    rw [if_pos rfl, hp]
    rfl
  | frame hp hc ha hw hasked =>
    obtain ⟨machine, error, hwindow⟩ := w.advance_window
    rw [if_pos rfl, hasked, hw, hwindow, hp]
    rfl
  | refused hp hc ha hw hn =>
    rw [if_pos rfl, asked_of_requests hn, hw, hp]
    rfl
  | close | escape =>
    rw [if_neg nofun, asked_close, window_close]
    rfl
  | press | release | kill =>
    rw [if_neg nofun]
    rfl

theorem Mirrors.owed_eq (h : Mirrors m t phase calls w) (es : List Event) :
    w.owed w.pending.toNat es = (w.afterAll es).pending.toNat := by
  induction es generalizing phase calls w with
  | nil => rfl
  | cons e es ih =>
    rw [owed, (answer_handle h.bounded e).owed_eq]
    exact ih (h.handle e)

/-- The frames that are still run once the toolkit has gone away. -/
def Phase.left : Phase → Nat
  | .closed => 0
  | .running | .orphaned => 1

theorem Phase.left_le_one (phase : Phase) : phase.left ≤ 1 := by
  cases phase <;> decide

theorem Phase.next_closed (e : Event) : closed.next e = closed := by
  cases e <;> simp [next]

theorem Phase.next_of_ne_running (hp : phase ≠ .running) (e : Event) :
    phase.next e ≠ .running ∧ (phase.next e).left ≤ phase.left := by
  cases phase with
  | running => exact absurd rfl hp
  | orphaned =>
    refine ⟨?_, left_le_one _⟩
    unfold Phase.next
    repeat' split
    all_goals nofun
  | closed =>
    rw [next_closed]
    exact ⟨nofun, Nat.le_refl _⟩

/-- A frame that finds the toolkit gone is the last. -/
theorem Mirrors.framesRun_le (h : Mirrors m t phase calls w) (hp : phase ≠ .running)
    (es : List Event) : w.framesRun es ≤ phase.left := by
  induction es generalizing phase calls w with
  | nil => exact Nat.zero_le _
  | cons e es ih =>
    obtain ⟨hp', hle⟩ := Phase.next_of_ne_running hp e
    have hrest := ih (h.handle e) hp'
    rw [framesRun]
    split
    · next hrun =>
      obtain ⟨rfl, -, hc⟩ := hrun
      have hx := h.phase_eq hc
      split at hx
      · exact absurd hx hp
      · subst hx
        exact Nat.add_le_add_left hrest 1
    · rw [Nat.zero_add]
      exact Nat.le_trans hrest hle

/-! ## Sessions -/

theorem getElem?_handleAll (w : Window) (before : List Event) (e : Event) (rest : List Event) :
    (w.handleAll (before ++ e :: rest))[before.length]? = some ((w.afterAll before).handle e) := by
  induction before generalizing w with
  | nil => rfl
  | cons d before ih => exact ih (w.handle d).window

theorem last_handleAll (r d : Reply) (es : List Event) :
    ((r :: r.window.handleAll es).getLastD d).window = r.window.afterAll es := by
  induction es generalizing r d with
  | nil => rfl
  | cons e es ih =>
    rw [handleAll, List.getLastD_cons]
    exact ih (r.window.handle e) r

theorem window_session (w : Window) (events : List Event) :
    (w.session events).window = { w.frame.window.afterAll events with closing := true } := by
  rw [← last_handleAll w.frame w.frame events]
  rfl

theorem replies_session (hp : w.pending = false) (events : List Event) :
    (w.session events).replies = w.due.handleAll (.frame :: events) := by
  rw [handleAll, handle_due hp]
  rfl

theorem window_session_due (hp : w.pending = false) (events : List Event) :
    (w.session events).window = { w.due.afterAll (.frame :: events) with closing := true } := by
  rw [window_session, ← handle_due hp]
  rfl

/-- A session in a window is a replay on the bare machine. Behind any of its events the machine is
the one that the operations read off the events make of the loaded machine, and the error, which is
there just if the machine has crashed, is their first. At most one frame is to come at any time, and
it is there for the event that runs it. Every handler is careful around closing, and behind the one
that finds the toolkit gone at most one frame is run. -/
theorem session_refines_replay (seed : Nat) (p : Program) (scale t : Int) (title : String)
    (events : List Event) :
    let m := ((fresh seed).load p).machine
    let w := (create m scale t title).window
    let s := w.session events
    let after (es : List Event) : Window := w.frame.window.afterAll es
    (s.window = { after events with closing := true } ∧ Tracks m (replay t events) s.window) ∧
      (∀ before rest, events = before ++ rest →
        Tracks m (replay t before) (after before) ∧
        ((after before).closing = true ↔ phaseAfter before = .closed) ∧
        ((after before).closing = false → (after before).pending = true) ∧
        w.frame.window.owed w.frame.asked before ≤ 1) ∧
      ∀ before e rest, events = before ++ e :: rest →
        let r := (after before).handle e
        s.replies[before.length + 1]? = some r ∧ Careful (after before) e r ∧
          (e = .kill → r.window.framesRun rest ≤ 1) := by
  intro m w s after
  have hm : Bounded m := (Machine.bounded_fresh seed).load p
  have hc : m.crashed = false := by
    obtain ⟨memory, hl⟩ := (fresh seed).machine_load p
    rw [show m = _ from hl]
    rfl
  have hfirst : Mirrors m t .running [frameCall t] w.frame.window :=
    mirrors_frame_create hm hc scale t title
  have hall (es : List Event) : Mirrors m t (phaseAfter es) (replay t es) (after es) :=
    hfirst.afterAll es
  refine ⟨?_, fun before rest _ => ?_, fun before e rest hsplit => ?_⟩
  · have hs : s.window = { after events with closing := true } := window_session w events
    rw [hs]
    exact ⟨rfl, { (hall events).toTracks with }⟩
  · have h := hall before
    have howed : w.frame.window.owed w.frame.asked before = (after before).pending.toNat := by
      have ho : w.Open := ⟨rfl, rfl, hm⟩
      rw [ho.asked_frame, ← hfirst.owed_eq before, hfirst.pending nofun]
      rfl
    refine ⟨h.toTracks, h.closing, fun hopen => h.pending fun hx => ?_, ?_⟩
    · rw [h.closing.2 hx] at hopen
      cases hopen
    · rw [howed]
      exact Bool.toNat_le _
  · subst hsplit
    refine ⟨getElem?_handleAll w.frame.window before e rest,
      (answer_handle (hall before).bounded e).careful, ?_⟩
    · rintro rfl
      refine Nat.le_trans (((hall before).handle .kill).framesRun_le ?_ rest) (Phase.left_le_one _)
      cases phaseAfter before <;> nofun

/-- The toolkit goes away, and the next frame breaks in a return from nowhere. -/
theorem session_refines_replay_orphaned :
    let bytes : List UInt8 := [0x60, 0x01, 0x61, 0x02, 0x00, 0xEE]
    let m := ((fresh 7).load (.bytes bytes)).machine
    let w := (create m 10 2 "CHIP-8").window
    let before := [.press "q"]
    let rest := [.frame, .frame, .press "Escape", .release "q"]
    let events := before ++ .kill :: rest
    let s := w.session events
    s.window.machine = m.applyAll [.run 2 2, .setKey 4 true, .run 2 2, .setKey 4 false] ∧
      s.window.error = some (.stackUnderflow 0x204) ∧
      (w.frame.window.afterAll events).closing = true ∧
      (w.frame.window.afterAll (before ++ [.kill])).framesRun rest ≤ 1 := by
  intro bytes m w before rest events s
  obtain ⟨⟨-, ht⟩, hbefore, hevent⟩ :=
    session_refines_replay 7 (.bytes bytes) 10 2 "CHIP-8" events
  have hcalls : replay 2 events = [.run 2 2, .setKey 4 true, .run 2 2, .setKey 4 false] := rfl
  have herror : m.firstError? (replay 2 events) = some (.fault (.stackUnderflow 0x204)) := by
    decide +kernel
  refine ⟨hcalls ▸ ht.machine, ?_, ?_, ?_⟩
  · obtain ⟨f, hf, hf'⟩ := Option.map_eq_some_iff.1 (ht.error.trans herror)
    rw [hf, Error.fault.inj hf']
  · exact (hbefore events [] (List.append_nil events).symm).2.1.2 rfl
  · exact (hevent before .kill rest rfl).2.2 rfl

end Window

end Chip8
