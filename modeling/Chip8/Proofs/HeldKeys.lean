import Chip8.Proofs.Replay
import Chip8.Proofs.Symbols
import Chip8.Proofs.WriteSets

/-!
# Keys that are down

An event with the symbol of a key presses or releases the key. Nothing else writes to the keypad:
not the steps of a frame, also when they crash the machine or leave it waiting for a key, not the
timers, and not closing. So at any time of a session a key is down just if the last event on it was
a press.
-/

namespace Chip8

namespace Machine

variable {m : Machine}

/-! ## Steps -/

/-- A step does not touch the keypad. -/
theorem Bounded.keypad_step (h : Bounded m) : m.step.machine.keypad = m.keypad := by
  cases hc : m.crashed with
  | true =>
    rw [step_of_crashed hc]
    rfl
  | false =>
  cases hw : m.waiting with
  | true =>
    obtain ⟨registers, waiting, pc, cycles, hp, -⟩ := m.machine_poll
    rw [step_of_waiting hc hw]
    show m.poll.keypad = m.keypad
    rw [hp]
  | false => exact (Ready.confined_step ⟨hc, hw⟩ h).keypad

theorem Bounded.keypad_stepUpTo (h : Bounded m) (n : Nat) :
    (Window.stepUpTo n m).machine.keypad = m.keypad := by
  induction n generalizing m with
  | zero => rfl
  | succ n ih =>
    rw [stepUpTo_succ]
    cases he : m.step.error with
    | none => rw [Outcome.andThen_of_done he, ih h.step.bounded, h.keypad_step]
    | some e => rw [Outcome.andThen_of_error he, h.keypad_step]

theorem read_keypad_keyCalls (m : Machine) (symbol : String) (down : Bool) (k : Nibble) :
    (m.applyAll (Window.keyCalls symbol down)).keypad.read k =
      if Keyboard.key? symbol = some k then down else m.keypad.read k := by
  rw [Window.applyAll_keyCalls]
  cases Keyboard.key? symbol with
  | none => rfl
  | some key => simp only [Bank.read_write, Option.some_inj]

end Machine

namespace Window

open Machine (Bounded fresh)

variable {w : Window} {m : Machine} {t : Int} {phase : Phase} {calls : List Call} {e : Event}
  {r : Reply} {k : Nibble} {es : List Event}

theorem keypad_advance (h : Bounded w.machine) :
    w.advance.window.machine.keypad = w.machine.keypad := by
  have hk : w.stepped.machine.keypad = w.machine.keypad := h.keypad_stepUpTo _
  rcases advance_cases h with hc | ⟨hc, he, -⟩ | ⟨hc, -, f, he⟩
  · rw [advance_of_crashed hc]
  · rw [advance_of_done hc he]
    exact hk
  · rw [advance_of_fault hc he]
    exact hk

/-! ## Events -/

def Event.key? : Event → Option Nibble
  | .press symbol | .release symbol => Keyboard.key? symbol
  | .frame | .close | .kill => none

def Event.isPress : Event → Bool
  | .press _ => true
  | .release _ | .frame | .close | .kill => false

/-- What an event does to a key: it presses the key, releases it, or is not about it. -/
def Event.change? (e : Event) (k : Nibble) : Option Bool :=
  if e.key? = some k then some e.isPress else none

/-- What the last of the events on a key has done to it. -/
def lastChange? (k : Nibble) (events : List Event) : Option Bool :=
  events.reverse.findSome? (·.change? k)

theorem Event.change?_eq_none : e.change? k = none ↔ e.key? ≠ some k := by
  unfold change?
  split <;> simp_all

theorem Event.change?_eq_true :
    e.change? k = some true ↔ ∃ symbol, e = .press symbol ∧ Keyboard.key? symbol = some k := by
  unfold change?
  by_cases hk : e.key? = some k
  · rw [if_pos hk]
    cases e <;> simp_all [key?, isPress]
  · rw [if_neg hk]
    cases e <;> simp_all [key?]

theorem lastChange?_cons (k : Nibble) (e : Event) (es : List Event) :
    lastChange? k (e :: es) = (lastChange? k es).or (e.change? k) := by
  simp [lastChange?, List.findSome?_append]

/-- The last change is a press if no event about the key comes behind it. -/
theorem lastChange?_eq_true :
    lastChange? k es = some true ↔ ∃ earlier symbol later,
      es = earlier ++ .press symbol :: later ∧ Keyboard.key? symbol = some k ∧
        ∀ e ∈ later, e.key? ≠ some k := by
  unfold lastChange?
  rw [List.findSome?_eq_some_iff]
  constructor
  · rintro ⟨later, e, earlier, hes, he, hlater⟩
    obtain ⟨symbol, rfl, hk⟩ := Event.change?_eq_true.1 he
    refine ⟨earlier.reverse, symbol, later.reverse, ?_, hk, fun e he => ?_⟩
    · rw [← List.reverse_reverse es, hes]
      simp
    · exact Event.change?_eq_none.1 (hlater e (List.mem_reverse.1 he))
  · rintro ⟨earlier, symbol, later, rfl, hk, hlater⟩
    refine ⟨later.reverse, .press symbol, earlier.reverse, by simp,
      Event.change?_eq_true.2 ⟨symbol, rfl, hk⟩, fun e he => ?_⟩
    exact Event.change?_eq_none.2 (hlater e (List.mem_reverse.1 he))

theorem key?_escape : Keyboard.key? "Escape" = none := by decide +kernel

/-- An event changes the key that it is about. -/
theorem Answer.read_keypad (hb : Bounded w.machine) (h : Answer w e r) (k : Nibble) :
    r.window.machine.keypad.read k = (e.change? k).getD (w.machine.keypad.read k) := by
  cases h with
  | unasked | late => rfl
  | frame hp hc ha hw =>
    rw [hw, keypad_advance hb]
    rfl
  | refused hp hc ha hw =>
    rw [hw]
    exact congrArg (Bank.read · k) (keypad_advance hb)
  | close =>
    rw [window_close]
    rfl
  | escape =>
    have hn : (Event.press "Escape").change? k = none :=
      Event.change?_eq_none.2 (by simp [Event.key?, key?_escape])
    rw [window_close, hn]
    rfl
  | @press symbol =>
    rw [Machine.read_keypad_keyCalls]
    by_cases hs : Keyboard.key? symbol = some k <;>
      simp [Event.change?, Event.key?, Event.isPress, hs]
  | release symbol =>
    rw [Machine.read_keypad_keyCalls]
    by_cases hs : Keyboard.key? symbol = some k <;>
      simp [Event.change?, Event.key?, Event.isPress, hs]
  | kill => rfl

/-! ## Sessions -/

theorem Mirrors.read_keypad (h : Mirrors m t phase calls w) (es : List Event) (k : Nibble) :
    (w.afterAll es).machine.keypad.read k =
      (lastChange? k es).getD (w.machine.keypad.read k) := by
  induction es generalizing phase calls w with
  | nil => rfl
  | cons e es ih =>
    have he := (answer_handle h.bounded e).read_keypad h.bounded k
    rw [lastChange?_cons, Option.getD_or, ← he]
    exact ih (h.handle e)

theorem error_frame (hb : Bounded w.machine) : w.frame.error = none := by
  have he := (closed_advance hb).1
  unfold frame
  split
  · rfl
  · simp only [he]
    split <;> rfl

/-- No event raises a fault. -/
theorem error_handle_ne_fault (hb : Bounded w.machine) (e : Event) (f : Fault) :
    (w.handle e).error ≠ some (.fault f) := by
  have hclose : w.close.error ≠ some (.fault f) := by
    unfold close
    split
    · simp
    · dsimp only
      split <;> simp
  cases e with
  | frame =>
    rw [handle]
    split
    · simp [error_frame (w := { w with pending := false }) hb]
    · simp
  | close => exact hclose
  | press symbol =>
    rw [handle]
    split
    · exact hclose
    · simp [setKey_eq]
  | release symbol => simp [handle, setKey_eq]
  | kill => simp [handle]

/-- The keypad follows the keys. At any time of a session, also between the steps of a frame, a key
is down just if the last event with a symbol of it exists and was a press, and no event raises a
fault. The symbols of keys are 28 characters, a capital for the same key as its small letter. -/
theorem keypad_follows_keys (seed : Nat) (p : Program) (scale t : Int) (title : String)
    (events : List Event) :
    let w := (create ((fresh seed).load p).machine scale t title).window
    let s := w.session events
    (s.replies = w.due.handleAll (.frame :: events) ∧
      s.window = { w.due.afterAll (.frame :: events) with closing := true }) ∧
    (∀ before rest, .frame :: events = before ++ rest →
      let m := (w.due.afterAll before).machine
      (∀ k, m.keypad.read k = true ↔ ∃ earlier symbol later,
        before = earlier ++ .press symbol :: later ∧ Keyboard.key? symbol = some k ∧
          ∀ e ∈ later, e.key? ≠ some k) ∧
      ∀ n, (stepUpTo n m).machine.keypad = m.keypad) ∧
    (∀ before e rest, .frame :: events = before ++ e :: rest →
      let v := w.due.afterAll before
      s.replies[before.length]? = some (v.handle e) ∧
        (∀ f, (v.handle e).error ≠ some (.fault f)) ∧
        (e.key? = none → (v.handle e).window.machine.keypad = v.machine.keypad)) ∧
    (∀ symbol key, Keyboard.key? symbol = some key ↔
      ∃ c, symbol = String.ofList [c] ∧ (c, key) ∈ Keyboard.characters) ∧
    (Keyboard.characters.length = 28 ∧ (Keyboard.characters.map Prod.fst).Nodup) ∧
    ∀ c : Char, Keyboard.key? (String.ofList [c.toUpper]) = Keyboard.key? (String.ofList [c]) := by
  intro w s
  have hstart := mirrors_loaded seed p scale t title
  have hreplies : s.replies = w.due.handleAll (.frame :: events) := replies_session rfl events
  have hbounded (es : List Event) : Bounded (w.due.afterAll es).machine :=
    (hstart.afterAll es).bounded
  refine ⟨⟨hreplies, window_session_due rfl events⟩, fun before rest _ => ?_,
    fun before e rest hsplit => ?_, fun _ _ => Keyboard.key?_eq_some, by decide,
    Keyboard.key?_toUpper⟩
  · refine ⟨fun k => ?_, (hbounded before).keypad_stepUpTo⟩
    have hup : w.due.machine.keypad.read k = false := by
      obtain ⟨memory, hl⟩ := (fresh seed).machine_load p
      rw [show w.due.machine = _ from hl]
      exact Bank.read_replicate false k
    rw [hstart.read_keypad before k, hup, ← lastChange?_eq_true]
    cases lastChange? k before <;> simp
  · refine ⟨?_, error_handle_ne_fault (hbounded before) e, fun hn => Bank.ext fun k => ?_⟩
    · rw [hreplies, hsplit]
      exact getElem?_handleAll w.due before e rest
    · rw [(answer_handle (hbounded before) e).read_keypad (hbounded before) k,
        Event.change?_eq_none.2 (by simp [hn])]
      rfl

/-- A key pressed with shift and released without it, behind the end of the session, and the sign
for kelvin. -/
theorem keypad_follows_keys_shifted :
    let w := (create ((fresh 0).load (.bytes [0xF0, 0x0A])).machine 10 2 "CHIP-8").window
    let before := [.frame, .press "Q", .press "w", .frame]
    let rest := [.press "Escape", .release "q", .press "\u212A"]
    let s := w.session (before.tail ++ rest)
    .frame :: (before.tail ++ rest) = before ++ rest ∧
      (w.due.afterAll before).machine.keypad.read 4 = true ∧
      s.window.machine.keypad.read 4 = false ∧ s.window.machine.keypad.read 5 = true := by
  have h := keypad_follows_keys 0 (.bytes [0xF0, 0x0A]) 10 2 "CHIP-8"
    [.press "Q", .press "w", .frame, .press "Escape", .release "q", .press "\u212A"]
  -- the machine is not to be run
  generalize (create _ 10 2 "CHIP-8").window = w at h ⊢
  intro w before rest s
  obtain ⟨⟨-, hs⟩, hkeys, -⟩ := h
  obtain ⟨hbefore, -⟩ := hkeys before rest rfl
  obtain ⟨hall, -⟩ := hkeys (before ++ rest) [] rfl
  have hend : s.window.machine = (w.due.afterAll (before ++ rest)).machine := by
    rw [show s.window = _ from hs]
    rfl
  have hQ : Keyboard.key? "Q" = some 4 := by decide +kernel
  have hw : Keyboard.key? "w" = some 5 := by decide +kernel
  refine ⟨rfl, (hbefore 4).2 ⟨[.frame], "Q", [.press "w", .frame], rfl, hQ, by decide +kernel⟩,
    ?_, ?_⟩
  · rw [hend, ← Bool.not_eq_true, hall 4, ← lastChange?_eq_true]
    decide +kernel
  · rw [hend]
    exact (hall 5).2 ⟨[.frame, .press "Q"], "w", .frame :: rest, rfl, hw, by decide +kernel⟩

end Window

end Chip8
