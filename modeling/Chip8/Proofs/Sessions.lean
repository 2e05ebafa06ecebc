import Chip8.CommandLine.Run
import Chip8.Proofs.Frames
import Chip8.Proofs.PlainLines

/-!
# Sessions without a user

A window that gets frames and nothing else stays open and runs its machine frame by frame, the first
one before any event. A command line that runs a program in such a window therefore leaves the same
machine and ends with the same status as one that runs it without a window for as many steps.
-/

namespace Chip8

/-! ## The loop of a window -/

namespace Window

open Machine (Bounded)

variable {w : Window}

/-- Nothing keeps the window from running frames. -/
structure Open (w : Window) : Prop where
  not_closing : w.closing = false
  alive : w.alive = true
  bounded : Bounded w.machine

/-- A frame changes the machine and the error only. -/
theorem advance_window (w : Window) :
    ∃ machine error, w.advance.window = { w with machine, error } := by
  unfold advance
  split
  · exact ⟨_, _, rfl⟩
  · dsimp only
    split <;> exact ⟨_, _, rfl⟩

theorem Open.advance (h : w.Open) : w.advance.window.Open := by
  obtain ⟨machine, error, ha⟩ := w.advance_window
  have hb := (closed_advance h.bounded).2
  rw [ha] at hb ⊢
  exact ⟨h.not_closing, h.alive, hb⟩

theorem advance_setPending (w : Window) (b : Bool) :
    ({ w with pending := b }).advance.window = { w.advance.window with pending := b } := by
  unfold Window.advance
  dsimp only
  split
  · rfl
  · split <;> rfl

theorem frames_setPending (w : Window) (b : Bool) (k : Nat) :
    ({ w with pending := b }).frames k = { w.frames k with pending := b } := by
  induction k generalizing w with
  | zero => rfl
  | succ k ih => rw [frames, frames, advance_setPending, ih]

theorem Open.frame (h : w.Open) :
    w.frame.window = { w.advance.window with pending := true } := by
  rw [Window.frame, if_neg (Bool.eq_false_iff.1 h.not_closing)]
  simp only [(closed_advance h.bounded).1, if_pos h.alive]

/-- A frame that comes while the toolkit was asked for one leads to asking for the next. -/
theorem Open.handle_frame (h : w.Open) (hp : w.pending = true) :
    (w.handle .frame).window = w.advance.window := by
  have ho : ({ w with pending := false }).Open := ⟨h.not_closing, h.alive, h.bounded⟩
  obtain ⟨machine, error, ha⟩ := w.advance_window
  rw [handle, if_pos hp, ho.frame, advance_setPending, ha, ← hp]

/-- The last answer to frames that all come in time. -/
theorem Open.last_handleAll {r : Reply} (h : r.window.Open) (hp : r.window.pending = true)
    (k : Nat) (d : Reply) :
    ((r :: r.window.handleAll (.replicate k .frame)).getLastD d).window = r.window.frames k := by
  induction k generalizing r d with
  | zero => rfl
  | succ k ih =>
    have hw := h.handle_frame hp
    obtain ⟨machine, error, ha⟩ := r.window.advance_window
    rw [List.replicate_succ, handleAll, List.getLastD_cons, ih, hw]
    · rfl
    · rw [hw]
      exact h.advance
    · rw [hw, ha]
      exact hp

/-- A session of frames only. -/
theorem Open.window_session (h : w.Open) (k : Nat) :
    (w.session (.replicate k .frame)).window =
      { w.frames (k + 1) with pending := true, closing := true } := by
  have ho : ({ w.advance.window with pending := true }).Open :=
    ⟨h.advance.not_closing, h.advance.alive, h.advance.bounded⟩
  have hf := h.frame
  show { ((w.frame :: w.frame.window.handleAll _).getLastD w.frame).window with
    closing := true } = _
  rw [last_handleAll (hf ▸ ho) (by rw [hf]), hf, frames_setPending]
  rfl

end Window

/-! ## Command lines -/

namespace CommandLine

open Machine (fresh Reachable)
open Text (Readable)

variable {s : Settings} {m final : Machine} {status : Nat} {t : Int}

/-- A picture is to be saved under a path that is not empty. -/
def Settings.WantsPicture (s : Settings) : Prop := ∃ path, s.png = some path ∧ path ≠ ""

/-- The command line asks for a run from a seed, in frames of `t` steps, and leaves nothing blank
that every run needs. -/
structure Asks (args : List String) (rom : String) (s : Settings) (seed : Nat) (t : Int) :
    Prop where
  parse : parse args = .ok (.run rom s)
  seed : s.seed = some (seed : Int)
  ticksPerFrame : s.ticksPerFrame = some t
  logLevel : s.logLevel ≠ none

theorem asks_windowLine {rom : String} {seed frame : Nat} (hrom : Undashed rom)
    (hseed : Readable seed) (h1 : 1 ≤ frame) (hframe : Readable frame) :
    Asks (windowLine rom seed frame) rom { seed := some seed, ticksPerFrame := some frame } seed
      frame :=
  ⟨parse_windowLine hrom hseed h1 hframe, rfl, rfl, nofun⟩

theorem asks_headlessLine {rom : String} {seed frame steps : Nat} (hrom : Undashed rom)
    (hseed : Readable seed) (h1 : 1 ≤ frame) (hframe : Readable frame) (hsteps : Readable steps) :
    Asks (headlessLine rom seed frame steps) rom
      { seed := some seed, ticksPerFrame := some frame, headless := true, cycles := some steps }
      seed frame :=
  ⟨parse_headlessLine hrom hseed h1 hframe hsteps, rfl, rfl, nofun⟩

namespace Report

/-- The run has come to its end with a machine and a status, which is only lost if a picture was
wanted and could not be made or saved. -/
structure Ended (r : Report) (wanted : Prop) (final : Machine) (status : Nat) : Prop where
  machine : r.machine = some final
  result : r.result = .ok status ∨ wanted ∧ ∃ e, r.result = .error e
  picture : r.picture = none ∨ wanted

namespace Ended

variable {r : Report} {wanted : Prop}

theorem after (h : r.Ended wanted final status) (printed : List String) (log : List Log.Entry) :
    (r.after printed log).Ended wanted final status := { h with }

theorem saveIn (h : r.Ended wanted final status) (folder : Folder) :
    (r.saveIn folder).Ended wanted final status := by
  unfold Report.saveIn
  split
  · exact h
  · next path image hp =>
    have hw : wanted := h.picture.resolve_left (by rw [hp]; exact Option.some_ne_none _)
    dsimp only [saved]
    split
    · exact ⟨h.machine, h.result, .inr hw⟩
    · exact ⟨h.machine, .inr ⟨hw, _, rfl⟩, .inr hw⟩

end Ended

end Report

theorem wantedPicture_eq (s : Settings) (m : Machine) :
    wantedPicture s m = .ok none ∨ s.WantsPicture := by
  unfold wantedPicture
  split
  · exact .inl rfl
  · exact .inl rfl
  · next hne hp _ => exact .inr ⟨_, hp, hne⟩
  · next hne hp _ => exact .inr ⟨_, hp, hne⟩

theorem ended_concluded (s : Settings) (m : Machine) (status : Nat) :
    (concluded s m status).Ended s.WantsPicture m status := by
  have hw := wantedPicture_eq s m
  rw [concluded]
  cases hp : wantedPicture s m with
  | ok picture =>
    rw [hp] at hw
    exact ⟨rfl, .inl rfl, hw.imp_left Except.ok.inj⟩
  | error e =>
    rw [hp] at hw
    exact ⟨rfl, .inr ⟨hw.resolve_left (nomatch ·), e, rfl⟩, .inl rfl⟩

/-- `run_headless` ends with the machine that `run` leaves. -/
theorem ended_runHeadless {cycles : Int} (ht : s.ticksPerFrame = some t) (h1 : 1 ≤ t)
    (hcycles : s.cycles = some cycles) (hb : m.Bounded) (hc : m.crashed = false) :
    (runHeadless s m).Ended s.WantsPicture (m.run cycles t).machine
      (if (m.run cycles t).error.isSome then 1 else 0) := by
  have hfault := (hb.run hc cycles h1).fault
  rw [runHeadless, ht, hcycles]
  dsimp only
  cases he : (m.run cycles t).error with
  | none => exact (ended_concluded s _ 0).after _ _
  | some e =>
    obtain ⟨f, rfl⟩ := hfault e he
    exact (ended_concluded s _ 1).after _ _

/-- `run_window` ends with the machine that a `run` of as many frames leaves. -/
theorem ended_runScaled (rom : String) (scale : Int) (ht : s.ticksPerFrame = some t) (h1 : 1 ≤ t)
    (hb : m.Bounded) (hc : m.crashed = false) (k : Nat) :
    (runScaled rom scale s m (.replicate k .frame)).Ended False
      (m.run ((k + 1 : Nat) * t) t).machine
      (if (m.run ((k + 1 : Nat) * t) t).error.isSome then 1 else 0) := by
  have ho : (Window.create m scale t (windowTitle rom)).window.Open := ⟨rfl, rfl, hb⟩
  obtain ⟨error, hw, he⟩ := Window.frames_eq_run
    (w := (Window.create m scale t (windowTitle rom)).window) hb hc rfl h1 (k + 1)
  rw [show (m.run ((k + 1 : Nat) * t) t).error = _ from he, Option.isSome_map, runScaled, ht]
  dsimp only [shown]
  rw [ho.window_session, hw]
  exact ⟨rfl, .inl rfl, .inl rfl⟩

theorem ended_runWindow (rom : String) (ht : s.ticksPerFrame = some t) (h1 : 1 ≤ t)
    (hb : m.Bounded) (hc : m.crashed = false) (k : Nat) :
    (runWindow rom s m (.replicate k .frame)).Ended False
      (m.run ((k + 1 : Nat) * t) t).machine
      (if (m.run ((k + 1 : Nat) * t) t).error.isSome then 1 else 0) := by
  unfold runWindow
  split
  · exact ended_runScaled rom _ ht h1 hb hc k
  · exact { ended_runScaled rom defaultScale ht h1 hb hc k with }

/-- A command line that asks for a run ends as the run does, if its program can be read and
loaded. -/
theorem Asks.ended {args : List String} {rom : String} {seed : Nat} {folder : Folder}
    {bytes : List UInt8} {events : List Window.Event} {wanted : Prop}
    (h : Asks args rom s seed t) (hr : folder.read rom = .ok bytes)
    (hl : ((fresh seed).load (.bytes bytes)).error = none)
    (he : (if s.headless then runHeadless s ((fresh seed).load (.bytes bytes)).machine
      else runWindow rom s ((fresh seed).load (.bytes bytes)).machine events).Ended wanted final
        status) :
    (run folder args events).Ended wanted final status := by
  obtain ⟨level, hv⟩ := Option.ne_none_iff_exists'.1 h.logLevel
  have hl' : ((fresh seed).reset.machine.load (.bytes bytes)).error = none := hl
  simp only [run, h.parse, runProgram, hv, hr, runBytes, h.seed, Machine.new_natCast, hl']
  apply Report.Ended.saveIn
  exact ⟨he.machine, he.result, he.picture⟩

/-- Two command lines for one program, one for whole frames without a window and one for a window
that gets as many. -/
theorem machines_agree {folder : Folder} {args args' : List String} {rom : String} {s s' : Settings}
    {seed : Nat} {t : Int} {k : Nat} {bytes : List UInt8} (events : List Window.Event)
    (ha : Asks args rom s seed t) (hh : s.headless = true) (hcycles : s.cycles = some ((k + 1) * t))
    (ha' : Asks args' rom s' seed t) (hh' : s'.headless = false) (ht : 1 ≤ t)
    (hr : folder.read rom = .ok bytes) (hl : ((fresh seed).load (.bytes bytes)).error = none) :
    let o := ((fresh seed).load (.bytes bytes)).machine.run ((k + 1) * t) t
    let headless := run folder args events
    let windowed := run folder args' (.replicate k .frame)
    let status := if o.error.isSome then 1 else 0
    headless.machine = some o.machine ∧ windowed.machine = some o.machine ∧
      windowed.result = .ok status ∧
      (headless.result = .ok status ∨ s.WantsPicture ∧ ∃ e, headless.result = .error e) := by
  intro o headless windowed status
  have hb : ((fresh seed).load (.bytes bytes)).machine.Bounded :=
    (Machine.bounded_fresh seed).load _
  have hc : ((fresh seed).load (.bytes bytes)).machine.crashed = false := by
    obtain ⟨memory, hm⟩ := (fresh seed).machine_load (.bytes bytes)
    rw [hm]
    rfl
  have hwindowed : windowed.Ended False o.machine status := by
    refine ha'.ended hr hl ?_
    rw [hh', if_neg Bool.false_ne_true]
    exact ended_runWindow rom ha'.ticksPerFrame ht hb hc k
  have hheadless : headless.Ended s.WantsPicture o.machine status := by
    refine ha.ended hr hl ?_
    rw [hh, if_pos rfl]
    exact ended_runHeadless ha.ticksPerFrame ht hcycles hb hc
  exact ⟨hheadless.machine, hwindowed.machine, hwindowed.result.resolve_right (fun h => h.1),
    hheadless.result⟩

/-- The plain lines for one seed and frame length leave the same machine in either mode, and end
with the same status. -/
theorem plain_lines_agree {folder : Folder} {rom : String} {seed frame k : Nat} {bytes : List UInt8}
    (events : List Window.Event) (hrom : Undashed rom) (hseed : Readable seed) (h1 : 1 ≤ frame)
    (hframe : Readable frame) (hsteps : Readable ((k + 1) * frame))
    (hr : folder.read rom = .ok bytes) (hl : ((fresh seed).load (.bytes bytes)).error = none) :
    let headless := run folder (headlessLine rom seed frame ((k + 1) * frame)) events
    let windowed := run folder (windowLine rom seed frame) (.replicate k .frame)
    headless.machine = windowed.machine ∧ headless.result = windowed.result := by
  intro headless windowed
  have ha := asks_headlessLine hrom hseed h1 hframe hsteps
  have ha' := asks_windowLine hrom hseed h1 hframe
  obtain ⟨hh, hw, hr', hr⟩ :=
    machines_agree events (k := k) ha rfl (by simp) ha' rfl (by omega) hr hl
  refine ⟨hh.trans hw.symm, (hr.resolve_right ?_).trans hr'.symm⟩
  rintro ⟨⟨path, hpath, -⟩, -⟩
  cases hpath

/-- A run without a window and frames in a window come to the same, also when a step fails in the
middle of a frame: the machines are equal, and the window keeps the error that stops the run. So two
command lines for a program, one for whole frames without a window and one for a window that gets as
many, leave equal machines and end with the same status, which only a picture can cost the first
one. -/
theorem window_agrees_with_run :
    (∀ (w : Window) (k : Nat), Reachable w.machine → w.machine.crashed = false → w.error = none →
      1 ≤ w.ticksPerFrame →
      let o := w.machine.run (k * w.ticksPerFrame) w.ticksPerFrame
      (∃ error, w.frames k = { w with machine := o.machine, error } ∧
        o.error = error.map .fault) ∧
      ∀ j, (w.frames j).advance.error = none) ∧
    ∀ (folder : Folder) (args args' : List String) (rom : String) (s s' : Settings) (seed : Nat)
        (t : Int) (k : Nat) (bytes : List UInt8) (events : List Window.Event),
      Asks args rom s seed t → s.headless = true → s.cycles = some ((k + 1) * t) →
      Asks args' rom s' seed t → s'.headless = false → 1 ≤ t →
      folder.read rom = .ok bytes → ((fresh seed).load (.bytes bytes)).error = none →
      let o := ((fresh seed).load (.bytes bytes)).machine.run ((k + 1) * t) t
      let headless := run folder args events
      let windowed := run folder args' (.replicate k .frame)
      let status := if o.error.isSome then 1 else 0
      headless.machine = some o.machine ∧ windowed.machine = some o.machine ∧
        windowed.result = .ok status ∧
        (headless.result = .ok status ∨ s.WantsPicture ∧ ∃ e, headless.result = .error e) := by
  refine ⟨fun w k hm hc he ht => ⟨Window.frames_eq_run hm.bounded hc he ht k, fun j => ?_⟩, ?_⟩
  · exact (Window.closed_advance (Window.bounded_frames hm.bounded j)).1
  · intro folder args args' rom s s' seed t k bytes events ha hh hcycles ha' hh' ht hr hl
    exact machines_agree events ha hh hcycles ha' hh' ht hr hl

/-- A return from nowhere in the middle of the second of three frames. -/
theorem window_agrees_with_run_broken :
    let bytes : List UInt8 := [0x60, 0x03, 0xF0, 0x15, 0x61, 0x01, 0x62, 0x02, 0x00, 0xEE]
    let m := ((fresh 7).load (.bytes bytes)).machine
    let w := (Window.create m 10 3 "CHIP-8").window
    let folder : Folder := { files := [(["a.ch8"], bytes)], dirs := [] }
    let framed := ["a.ch8", "--seed", "7", "--ticks-per-frame", "3"]
    let headless := run folder (framed ++ ["--headless", "--cycles", "9"]) []
    let windowed := run folder framed (.replicate 2 .frame)
    (Reachable w.machine ∧ w.machine.crashed = false ∧ w.error = none ∧ 1 ≤ w.ticksPerFrame) ∧
      (w.frames 3).machine = (m.run 9 3).machine ∧
      (w.frames 3).error = some (.stackUnderflow 0x208) ∧
      headless.machine = windowed.machine ∧ headless.result = .ok 1 ∧ windowed.result = .ok 1 := by
  intro bytes m w folder framed headless windowed
  let s : Settings := { ticksPerFrame := some 3, seed := some 7 }
  have hrom : Undashed "a.ch8" := by unfold Undashed; decide
  have h3 : Readable 3 := by unfold Readable; decide
  have h7 : Readable 7 := by unfold Readable; decide
  have h9 : Readable 9 := by unfold Readable; decide
  have ha : Asks framed "a.ch8" s 7 3 :=
    @asks_windowLine "a.ch8" 7 3 hrom h7 (by decide) h3
  have ha' : Asks (framed ++ ["--headless", "--cycles", "9"]) "a.ch8"
      { s with headless := true, cycles := some 9 } 7 3 :=
    @asks_headlessLine "a.ch8" 7 3 9 hrom h7 (by decide) h3 h9
  have hm : Reachable m := (Machine.reachable_fresh 7).applyAll [.load (.bytes bytes)] (by decide)
  have hf : (m.run 9 3).error = some (.fault (.stackUnderflow 0x208)) := by decide +kernel
  obtain ⟨⟨error, hw, he⟩, -⟩ := window_agrees_with_run.1 w 3 hm rfl rfl (by decide)
  obtain ⟨hh, hv, hr', hr⟩ := window_agrees_with_run.2 folder _ _ "a.ch8" _ s 7 3 2 bytes [] ha' rfl
    rfl ha rfl (by decide) rfl rfl
  have ho : (m.run (((2 : Nat) + 1) * 3) 3).error.isSome = true := by
    rw [show m.run (((2 : Nat) + 1) * 3) 3 = m.run 9 3 from rfl, hf]
    rfl
  refine ⟨⟨hm, rfl, rfl, by decide⟩, ?_, ?_, ?_, ?_⟩
  · rw [hw]
    rfl
  · obtain ⟨f, rfl, hf'⟩ := Option.map_eq_some_iff.1 (he.symm.trans hf)
    rw [hw, Error.fault.inj hf']
  · rw [hh, hv]
  · rw [if_pos ho] at hr hr'
    exact ⟨hr.resolve_right fun ⟨⟨_, hp, _⟩, _⟩ => (nomatch hp), hr'⟩

end CommandLine

end Chip8
