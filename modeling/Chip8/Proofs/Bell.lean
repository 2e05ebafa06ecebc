import Chip8.Proofs.Replay

/-!
# The bell

A frame looks at the sound timer before its steps and after its tick, and rings the bell if the
timer has begun to run in between. So the bell rings just where the timer is seen to start at the
ends of frames, whatever the program does to it in the middle of one. Between two bells there is a
frame that ends in silence: the sound timer of a session is at any time the one that the last full
frame has left, for keys and closing leave it alone, and a broken frame is the last to be run.
-/

namespace Chip8

namespace Machine

variable {m : Machine}

theorem soundActive_eq_true : m.soundActive = true ↔ 0 < m.sound := decide_eq_true_iff

theorem Bounded.soundActive_eq_false (h : Bounded m) : m.soundActive = false ↔ m.sound = 0 := by
  have := h.sound_nonneg
  rw [← Bool.not_eq_true, soundActive_eq_true]
  omega

/-- A sound is still on after a tick if it has two ticks to go. -/
theorem sound_tick_pos : 0 < m.tick.sound ↔ 2 ≤ m.sound := by
  show 0 < countdown m.sound ↔ 2 ≤ m.sound
  unfold countdown
  split <;> omega

end Machine

namespace Window

open Machine (Bounded Reachable fresh)

/-! ## Frames that run to completion -/

/-- A frame that comes now runs to completion. -/
def Completes (w : Window) : Prop :=
  w.closing = false ∧ w.machine.crashed = false ∧ w.stepped.error = none

instance (w : Window) : Decidable w.Completes :=
  inferInstanceAs (Decidable (_ ∧ _ ∧ _))

/-- The sound is off before a frame and on after it. -/
abbrev SoundStarts (w : Window) : Prop := w.machine.sound = 0 ∧ 2 ≤ w.stepped.machine.sound

def Reply.bells (r : Reply) : Nat := r.requests.count .bell

def bellsOver (w : Window) (events : List Event) : Nat :=
  ((w.handleAll events).flatMap Reply.requests).count .bell

/-- The windows at the ends of the frames that run to completion. -/
def frameEnds (w : Window) : List Event → List Window
  | [] => []
  | e :: es =>
    let r := w.handle e
    if e = .frame ∧ w.Completes then r.window :: r.window.frameEnds es else r.window.frameEnds es

variable {w : Window} {e : Event} {es : List Event} {r : Reply} {m : Machine}

/-! ## Bells of an event -/

/-- `run_frame` rings at a start of the sound, and once. -/
theorem bells_advance (hb : Bounded w.machine) (hc : w.closing = false) :
    w.advance.bells = if w.Completes ∧ w.SoundStarts then 1 else 0 := by
  rcases advance_cases hb with hx | ⟨hx, he, -⟩ | ⟨hx, -, f, he⟩
  · rw [advance_of_crashed hx, if_neg fun h => Bool.eq_false_iff.1 h.1.2.1 hx]
    rfl
  · have hiff : (w.stepped.machine.tick.soundActive && !w.machine.soundActive) = true ↔
        w.Completes ∧ w.SoundStarts := by
      rw [Bool.and_eq_true, Bool.not_eq_true', Machine.soundActive_eq_true,
        Machine.sound_tick_pos, hb.soundActive_eq_false]
      exact ⟨fun ⟨h₂, h₁⟩ => ⟨⟨hc, hx, he⟩, h₁, h₂⟩, fun ⟨_, h₁, h₂⟩ => ⟨h₂, h₁⟩⟩
    rw [advance_of_done hx he, Reply.bells]
    by_cases h : w.Completes ∧ w.SoundStarts
    · rw [if_pos (hiff.2 h), if_pos h]
      rfl
    · rw [if_neg (mt hiff.1 h), if_neg h]
      rfl
  · rw [advance_of_fault hx he,
      if_neg fun h => Option.some_ne_none _ (he.symm.trans h.1.2.2)]
    rfl

theorem bells_picture (w : Window) : w.picture.count .bell = 0 := by
  rw [picture, List.count_eq_zero]
  simp [square]

theorem bells_frame (hb : Bounded w.machine) (ha : w.alive = true) :
    w.frame.bells = if w.Completes ∧ w.SoundStarts then 1 else 0 := by
  cases hc : w.closing with
  | true =>
    rw [frame_of_closing hc, if_neg fun h => Bool.eq_false_iff.1 h.1.1 hc]
    rfl
  | false =>
    have he := (closed_advance hb).1
    have hbells := bells_advance hb hc
    unfold frame Reply.bells at *
    rw [if_neg (Bool.eq_false_iff.1 hc)]
    simp only [he, ha, if_true, List.count_append, hbells, bells_picture]
    rfl

theorem bells_close (w : Window) : w.close.bells = 0 := by
  cases hc : w.closing with
  | true =>
    rw [close_of_closing hc]
    rfl
  | false =>
    rcases (close_of_not_closing hc).2 with h | ⟨h, -⟩ <;>
    · rw [Reply.bells, h]
      rfl

theorem bellsOver_cons (w : Window) (e : Event) (es : List Event) :
    w.bellsOver (e :: es) = (w.handle e).bells + (w.handle e).window.bellsOver es := by
  rw [bellsOver, handleAll, List.flatMap_cons, List.count_append]
  rfl

/-! ## What events do to the machine -/

/-- An event is a frame that is run, or leaves all but the keypad alone. -/
theorem Answer.machine_eq (h : Answer w e r) :
    (e = .frame ∧ w.closing = false ∧ r.window.machine = w.advance.window.machine) ∨
      ∃ keypad, r.window.machine = { w.machine with keypad } := by
  cases h with
  | unasked | late | kill => exact .inr ⟨_, rfl⟩
  | frame hp hc ha hr | refused hp hc ha hr => exact .inl ⟨rfl, hc, by rw [hr]⟩
  | close | escape =>
    rw [window_close]
    exact .inr ⟨_, rfl⟩
  | press | release => exact .inr ⟨_, applyAll_keyCalls w.machine _ _⟩

theorem Answer.bounded (h : Answer w e r) (hb : Bounded w.machine) : Bounded r.window.machine := by
  rcases h.machine_eq with ⟨-, -, hm⟩ | ⟨keypad, hm⟩
  · rw [hm]
    exact (closed_advance hb).2
  · rw [hm]
    exact { hb with }

/-- No event starts a crashed machine again. -/
theorem Answer.crashed (h : Answer w e r) (hc : w.machine.crashed = true) :
    r.window.machine.crashed = true := by
  rcases h.machine_eq with ⟨-, -, hm⟩ | ⟨keypad, hm⟩
  · rw [hm, advance_of_crashed hc]
    exact hc
  · rw [hm]
    exact hc

/-- Only a full frame changes the sound timer and leaves a machine that can go on. -/
theorem Answer.sound_eq (h : Answer w e r) (hb : Bounded w.machine)
    (hn : ¬(e = .frame ∧ w.Completes)) (hc : r.window.machine.crashed = false) :
    r.window.machine.sound = w.machine.sound := by
  rcases h.machine_eq with ⟨rfl, hopen, hm⟩ | ⟨keypad, hm⟩
  · rw [hm] at hc ⊢
    rcases advance_cases hb with hx | ⟨hx, he, -⟩ | ⟨hx, hx', f, he⟩
    · rw [advance_of_crashed hx]
    · exact absurd ⟨rfl, hopen, hx, he⟩ hn
    · rw [advance_of_fault hx he] at hc
      exact absurd hx' (Bool.eq_false_iff.1 hc)
  · rw [hm]

/-! ## Windows whose toolkit stays -/

/-- The toolkit takes requests, and was asked for a frame unless the window is closing. -/
structure Served (w : Window) : Prop where
  alive : w.alive = true
  pending : w.closing = false → w.pending = true
  bounded : Bounded w.machine

theorem served_due (hm : Bounded m) (scale t : Int) (title : String) :
    (create m scale t title).window.due.Served := ⟨rfl, fun _ => rfl, hm⟩

namespace Served

theorem handle (h : w.Served) (he : e ≠ .kill) : (w.handle e).window.Served := by
  have hanswer := answer_handle h.bounded e
  refine ⟨?_, ?_, hanswer.bounded h.bounded⟩
  all_goals
    obtain ⟨machine, error, hadvance⟩ := w.advance_window
    generalize w.handle e = r at hanswer
    cases hanswer <;> simp_all [window_close, h.alive, h.pending]

theorem afterAll (h : w.Served) (hk : .kill ∉ es) : (w.afterAll es).Served := by
  induction es generalizing w with
  | nil => exact h
  | cons e es ih =>
    rw [List.mem_cons, not_or] at hk
    exact ih (h.handle (Ne.symm hk.1)) hk.2

theorem crashed_afterAll (h : w.Served) (hk : .kill ∉ es) (hc : w.machine.crashed = true) :
    (w.afterAll es).machine.crashed = true := by
  induction es generalizing w with
  | nil => exact hc
  | cons e es ih =>
    rw [List.mem_cons, not_or] at hk
    exact ih (h.handle (Ne.symm hk.1)) hk.2 ((answer_handle h.bounded e).crashed hc)

/-- A full frame ends with a tick. -/
theorem machine_frame (h : w.Served) (hc : w.Completes) :
    (w.handle .frame).window.machine = w.stepped.machine.tick := by
  have ho : w.Open := ⟨hc.1, h.alive, h.bounded⟩
  rw [ho.handle_frame (h.pending hc.1), advance_of_done hc.2.1 hc.2.2]

theorem sound_frame (h : w.Served) (hc : w.Completes) :
    (w.handle .frame).window.machine.sound ≠ 0 ↔ 2 ≤ w.stepped.machine.sound := by
  have hb := (h.handle (e := .frame) nofun).bounded.sound_nonneg
  rw [h.machine_frame hc] at hb ⊢
  rw [← Machine.sound_tick_pos]
  omega

/-- The bell rings in a full frame with a start of the sound, once, and never otherwise. -/
theorem bells_handle (h : w.Served) (e : Event) :
    (w.handle e).bells = if (e = .frame ∧ w.Completes) ∧ w.SoundStarts then 1 else 0 := by
  cases e with
  | frame =>
    simp only [true_and]
    cases hp : w.pending with
    | true =>
      rw [Window.handle, if_pos hp]
      exact bells_frame (w := { w with pending := false }) h.bounded h.alive
    | false =>
      rw [Window.handle, if_neg (Bool.eq_false_iff.1 hp), if_neg fun hs => ?_]
      · rfl
      · rw [h.pending hs.1.1] at hp
        cases hp
  | close => exact bells_close w
  | press symbol =>
    rw [Window.handle]
    split
    · exact bells_close w
    · rw [setKey_eq]
      rfl
  | release symbol =>
    rw [Window.handle, setKey_eq]
    rfl
  | kill => rfl

theorem starts_of_bells (h : w.Served) (hx : (w.handle e).bells ≠ 0) :
    (e = .frame ∧ w.Completes) ∧ w.SoundStarts := by
  rw [h.bells_handle] at hx
  exact Classical.byContradiction fun hn => hx (if_neg hn)

/-! ## Runs of events -/

theorem frameEnds_of_crashed (h : w.Served) (hk : .kill ∉ es) (hc : w.machine.crashed = true) :
    w.frameEnds es = [] := by
  induction es generalizing w with
  | nil => rfl
  | cons e es ih =>
    rw [List.mem_cons, not_or] at hk
    rw [frameEnds, if_neg fun hx => Bool.eq_false_iff.1 hx.2.2.1 hc]
    exact ih (h.handle (Ne.symm hk.1)) hk.2 ((answer_handle h.bounded e).crashed hc)

/-- The sound timer is the one that the last full frame has left. -/
theorem sound_afterAll (h : w.Served) (hk : .kill ∉ es)
    (hc : (w.afterAll es).machine.crashed = false) :
    (w.afterAll es).machine.sound = ((w.frameEnds es).getLastD w).machine.sound := by
  induction es generalizing w with
  | nil => rfl
  | cons e es ih =>
    rw [List.mem_cons, not_or] at hk
    have hw := h.handle (Ne.symm hk.1)
    have hrest : (w.afterAll (e :: es)).machine.sound = _ := ih hw hk.2 hc
    rw [hrest, frameEnds]
    by_cases hfull : e = .frame ∧ w.Completes
    · rw [if_pos hfull, List.getLastD_cons]
    · rw [if_neg hfull]
      cases hends : (w.handle e).window.frameEnds es with
      | cons v vs => simp only [List.getLastD_cons]
      | nil =>
        refine (answer_handle h.bounded e).sound_eq h.bounded hfull ?_
        rw [← Bool.not_eq_true]
        intro hx
        exact Bool.eq_false_iff.1 hc (hw.crashed_afterAll hk.2 hx)

/-- Over events whose full frames all end with a sound, the bell rings once if there was none
before, and not at all if there was. -/
theorem bellsOver_eq (h : w.Served) (hk : .kill ∉ es)
    (hs : ∀ v ∈ w.frameEnds es, v.machine.sound ≠ 0) :
    w.bellsOver es = if w.machine.sound = 0 ∧ w.frameEnds es ≠ [] then 1 else 0 := by
  induction es generalizing w with
  | nil =>
    rw [if_neg fun hx => hx.2 rfl]
    rfl
  | cons e es ih =>
    rw [List.mem_cons, not_or] at hk
    have hw := h.handle (Ne.symm hk.1)
    rw [bellsOver_cons, h.bells_handle]
    rw [frameEnds] at hs ⊢
    by_cases hfull : e = .frame ∧ w.Completes
    · rw [if_pos hfull] at hs ⊢
      obtain ⟨hend, hrest⟩ := List.forall_mem_cons.1 hs
      have hstart : (w.handle e).window.machine.sound ≠ 0 ↔ 2 ≤ w.stepped.machine.sound :=
        hfull.1 ▸ h.sound_frame hfull.2
      have hlater := ih hw hk.2 hrest
      rw [if_neg fun hx => hend hx.1] at hlater
      rw [hlater, Nat.add_zero]
      by_cases hz : w.machine.sound = 0
      · rw [if_pos ⟨hfull, hz, hstart.1 hend⟩, if_pos ⟨hz, List.cons_ne_nil _ _⟩]
      · rw [if_neg fun hx => hz hx.2.1, if_neg fun hx => hz hx.1]
    · rw [if_neg hfull] at hs ⊢
      rw [if_neg fun hx => hfull hx.1, Nat.zero_add, ih hw hk.2 hs]
      cases hx : (w.handle e).window.machine.crashed with
      | true => simp [hw.frameEnds_of_crashed hk.2 hx]
      | false => rw [(answer_handle h.bounded e).sound_eq h.bounded hfull hx]

/-- A sound does not end between the ends of frames. -/
theorem exists_silent_end (h : w.Served) (hk : .kill ∉ es) (hs : w.machine.sound ≠ 0)
    (hc : (w.afterAll es).machine.crashed = false) (hz : (w.afterAll es).machine.sound = 0) :
    ∃ v ∈ w.frameEnds es, v.machine.sound = 0 := by
  rw [h.sound_afterAll hk hc] at hz
  rcases List.eq_nil_or_concat (w.frameEnds es) with hends | ⟨vs, v, hends⟩
  · rw [hends] at hz
    exact absurd hz hs
  · refine ⟨v, by simp [hends], ?_⟩
    simpa [hends] using hz

end Served

/-! ## Sessions -/

/-- The bell rings at the starts of the sound that are seen at the ends of frames. As long as the
toolkit stays, a frame that runs to completion rings the bell once if there was no sound before it
and its steps leave the timer with two ticks to go, so that the sound is on behind its tick. Nothing
else rings, neither a broken frame nor one on a crashed machine or a closing window. So between two
bells a frame ends in silence, and over events whose full frames all end with a sound, the bell
rings once if there was none before, and not at all if there was. -/
theorem bell_rings_at_sound_starts {m : Machine} (hm : Reachable m) (scale t : Int)
    (title : String) (events : List Event) (hk : .kill ∉ events) :
    let w := (create m scale t title).window
    let s := w.session events
    s.replies = w.due.handleAll (.frame :: events) ∧
    (∀ before e rest, .frame :: events = before ++ e :: rest →
      let v := w.due.afterAll before
      let r := v.handle e
      s.replies[before.length]? = some r ∧
        (e = .frame → v.Completes →
          r.window.machine = v.stepped.machine.tick ∧
          (r.window.machine.sound ≠ 0 ↔ 2 ≤ v.stepped.machine.sound) ∧
          r.bells = if v.machine.sound = 0 ∧ 2 ≤ v.stepped.machine.sound then 1 else 0) ∧
        (¬(e = .frame ∧ v.Completes) → r.bells = 0)) ∧
    (∀ before e₁ between e₂ rest,
      .frame :: events = before ++ e₁ :: (between ++ e₂ :: rest) →
      let r₁ := (w.due.afterAll before).handle e₁
      let r₂ := (r₁.window.afterAll between).handle e₂
      r₁.bells ≠ 0 → r₂.bells ≠ 0 →
      ∃ v ∈ r₁.window.frameEnds between, v.machine.sound = 0) ∧
    ∀ before stretch rest, .frame :: events = before ++ (stretch ++ rest) →
      let v := w.due.afterAll before
      (∀ u ∈ v.frameEnds stretch, u.machine.sound ≠ 0) →
      v.bellsOver stretch = if v.machine.sound = 0 ∧ v.frameEnds stretch ≠ [] then 1 else 0 := by
  intro w s
  have hk' : .kill ∉ Event.frame :: events := by simp [hk]
  have hstart : w.due.Served := served_due hm.bounded scale t title
  have hreplies : s.replies = w.due.handleAll (.frame :: events) := replies_session rfl events
  refine ⟨hreplies, fun before e rest hsplit => ?_,
    fun before e₁ between e₂ rest hsplit => ?_, fun before stretch rest hsplit => ?_⟩
  · rw [hsplit, List.mem_append, not_or] at hk'
    have hv := hstart.afterAll hk'.1
    refine ⟨?_, ?_, fun hn => ?_⟩
    · rw [hreplies, hsplit]
      exact getElem?_handleAll w.due before e rest
    · rintro rfl hc
      refine ⟨hv.machine_frame hc, hv.sound_frame hc, ?_⟩
      rw [hv.bells_handle]
      simp only [hc, true_and]
    · rw [hv.bells_handle, if_neg fun hx => hn hx.1]
  · simp only [hsplit, List.mem_append, List.mem_cons, not_or] at hk'
    obtain ⟨hbefore, he₁, hbetween, -⟩ := hk'
    have hv := hstart.afterAll hbefore
    have hu := hv.handle (Ne.symm he₁)
    intro r₁ r₂ h₁ h₂
    obtain ⟨⟨rfl, hc₁⟩, -, hsound⟩ := hv.starts_of_bells h₁
    obtain ⟨⟨-, hc₂⟩, hsilent, -⟩ := (hu.afterAll hbetween).starts_of_bells h₂
    exact hu.exists_silent_end hbetween ((hv.sound_frame hc₁).2 hsound) hc₂.2.1 hsilent
  · simp only [hsplit, List.mem_append, not_or] at hk'
    exact (hstart.afterAll hk'.1).bellsOver_eq hk'.2.1

/-- A sound that fades away over three frames and starts again in the next one. -/
theorem bell_rings_at_sound_starts_twice :
    let bytes : List UInt8 := [0x60, 0x03, 0xF0, 0x18, 0x12, 0x06, 0x12, 0x08, 0x12, 0x00]
    let m := ((fresh 7).load (.bytes bytes)).machine
    let w := (create m 10 2 "CHIP-8").window
    let between := [.press "q", .frame, .frame]
    let first := w.due.handle .frame
    let last := (first.window.afterAll between).handle .frame
    Reachable m ∧ .kill ∉ between ++ [.frame, .close] ∧ first.bells = 1 ∧ last.bells = 1 ∧
      (∃ v ∈ first.window.frameEnds between, v.machine.sound = 0) ∧
      w.due.bellsOver [.frame, .press "q", .frame] = 1 := by
  intro bytes m w between first last
  have hm : Reachable m := (Machine.reachable_fresh 7).applyAll [.load (.bytes bytes)] (by decide)
  have hk : .kill ∉ between ++ [.frame, .close] := by decide
  obtain ⟨hfirst, hlast, hends, hfull⟩ :
      (w.due.Completes ∧ w.due.SoundStarts) ∧
      ((first.window.afterAll between).Completes ∧ (first.window.afterAll between).SoundStarts) ∧
      (∀ v ∈ w.due.frameEnds [.frame, .press "q", .frame], v.machine.sound ≠ 0) ∧
      w.due.frameEnds [.frame, .press "q", .frame] ≠ [] := by
    decide +kernel
  have h := bell_rings_at_sound_starts hm 10 2 "CHIP-8" _ hk
  rw [show (create m 10 2 "CHIP-8").window = w from rfl] at h
  -- the machine is not to be run
  clear_value w
  obtain ⟨-, hevent, hbetween, hstretch⟩ := h
  have hbells₁ : first.bells = 1 := by
    obtain ⟨-, hring, -⟩ := hevent [] .frame (between ++ [.frame, .close]) rfl
    exact (hring rfl hfirst.1).2.2.trans (if_pos hfirst.2)
  have hbells₂ : last.bells = 1 := by
    obtain ⟨-, hring, -⟩ := hevent (.frame :: between) .frame [.close] rfl
    exact (hring rfl hlast.1).2.2.trans (if_pos hlast.2)
  refine ⟨hm, hk, hbells₁, hbells₂, ?_, ?_⟩
  · exact hbetween [] .frame between .frame [.close] rfl (fun h => nomatch hbells₁.symm.trans h)
      fun h => nomatch hbells₂.symm.trans h
  · exact (hstretch [] [.frame, .press "q", .frame] [.frame, .frame, .close] rfl hends).trans
      (if_pos ⟨hfirst.2.1, hfull⟩)

end Window

end Chip8
