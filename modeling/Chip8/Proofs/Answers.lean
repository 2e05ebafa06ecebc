import Chip8.Proofs.Sessions

/-!
# How a window answers

All that an event can lead to, case by case. A frame is run only if the toolkit was asked for it and
the window is not closing; it asks for the next one, or is refused and closes the window. Keys reach
the machine as operations, also behind the end. From the cases it follows that a window is careful
around closing.
-/

namespace Chip8

namespace Window

open Machine (Bounded)

variable {w : Window} {e : Event} {r : Reply}

/-- A key as operations, none if the symbol stands for no key. -/
def keyCalls (symbol : String) (down : Bool) : List Call :=
  match Keyboard.key? symbol with
  | none => []
  | some key => [.setKey key.val down]

/-- The number of frames that a reply asks for. -/
def Reply.asked (r : Reply) : Nat := r.requests.countP fun q => q matches .after _

/-- What an event can lead to. -/
inductive Answer (w : Window) : Event → Reply → Prop
  /-- A frame that the toolkit was not asked for. -/
  | unasked (hp : w.pending = false) : Answer w .frame { window := w }
  /-- A frame that comes after closing. -/
  | late (hp : w.pending = true) (hc : w.closing = true) :
    Answer w .frame { window := { w with pending := false } }
  /-- A frame, and the next one to come. -/
  | frame {r : Reply} (hp : w.pending = true) (hc : w.closing = false) (ha : w.alive = true)
    (hw : r.window = w.advance.window) (hasked : r.asked = 1) : Answer w .frame r
  /-- A frame that finds the toolkit gone. -/
  | refused {r : Reply} (hp : w.pending = true) (hc : w.closing = false) (ha : w.alive = false)
    (hw : r.window = { w.advance.window with pending := false, closing := true })
    (hn : r.requests = []) (hf : r.refused ≠ none) : Answer w .frame r
  | close : Answer w .close w.close
  | escape : Answer w (.press "Escape") w.close
  | press {symbol : String} (hs : symbol ≠ "Escape") :
    Answer w (.press symbol)
      { window := { w with machine := w.machine.applyAll (keyCalls symbol true) } }
  | release (symbol : String) :
    Answer w (.release symbol)
      { window := { w with machine := w.machine.applyAll (keyCalls symbol false) } }
  | kill : Answer w .kill { window := { w with alive := false } }

/-! ## Frames -/

theorem asked_of_requests (h : r.requests = []) : r.asked = 0 := by
  rw [Reply.asked, h, List.countP_nil]

theorem asked_advance (w : Window) : w.advance.asked = 0 := by
  unfold advance Reply.asked
  split
  · rfl
  · dsimp only
    split
    · dsimp only
      split <;> rfl
    · rfl
    · rfl

theorem asked_picture (w : Window) : w.picture.countP (fun q => q matches .after _) = 0 := by
  rw [picture, List.countP_eq_zero]
  intro q hq
  rcases List.mem_cons.1 hq with rfl | hq
  · exact Bool.false_ne_true
  · obtain ⟨pixel, -, rfl⟩ := List.mem_map.1 hq
    exact Bool.false_ne_true

theorem frame_of_closing (h : w.closing = true) : w.frame = { window := w } := if_pos h

/-- A frame asks for the next one, and once. -/
theorem Open.asked_frame (h : w.Open) : w.frame.asked = 1 := by
  have he := (closed_advance h.bounded).1
  have hasked := w.asked_advance
  unfold Window.frame Reply.asked at *
  rw [if_neg (Bool.eq_false_iff.1 h.not_closing)]
  simp only [he, h.alive, if_true, List.countP_append, hasked, asked_picture]
  rfl

/-- With the toolkit gone the first request is refused, and the window closes. -/
theorem frame_of_not_alive (hb : Bounded w.machine) (hc : w.closing = false)
    (ha : w.alive = false) :
    w.frame.window = { w.advance.window with closing := true } ∧ w.frame.requests = [] ∧
      w.frame.refused ≠ none := by
  have he := (closed_advance hb).1
  unfold frame
  rw [if_neg (Bool.eq_false_iff.1 hc)]
  simp only [he, ha]
  refine ⟨rfl, rfl, ?_⟩
  rw [if_neg Bool.false_ne_true, ne_eq, List.head?_eq_none_iff]
  simp

/-- A frame that was asked for gets the answer of `_update`, any other one none. -/
theorem answer_frame (hb : Bounded w.machine) : Answer w .frame (w.handle .frame) := by
  cases hp : w.pending with
  | false =>
    rw [handle, if_neg (Bool.eq_false_iff.1 hp)]
    exact .unasked hp
  | true =>
  let v : Window := { w with pending := false }
  have hv : w.handle .frame = v.frame := if_pos hp
  cases hc : w.closing with
  | true =>
    rw [hv, frame_of_closing (w := v) hc]
    exact .late hp hc
  | false =>
  cases ha : w.alive with
  | true =>
    have ho : w.Open := ⟨hc, ha, hb⟩
    have hasked := Open.asked_frame (w := v) ⟨hc, ha, hb⟩
    exact .frame hp hc ha (ho.handle_frame hp) (hv ▸ hasked)
  | false =>
    obtain ⟨hf, hn, hr⟩ := frame_of_not_alive (w := v) hb hc ha
    rw [hv]
    exact .refused hp hc ha (by rw [hf, advance_setPending]) hn hr

/-! ## Events -/

/-- A key changes the keypad only. -/
theorem applyAll_keyCalls (m : Machine) (symbol : String) (down : Bool) :
    m.applyAll (keyCalls symbol down) =
      { m with
        keypad := match Keyboard.key? symbol with
          | none => m.keypad
          | some key => m.keypad.write key down } := by
  unfold keyCalls
  cases Keyboard.key? symbol with
  | none => rfl
  | some key =>
    simp only [Machine.applyAll_cons, Machine.apply, Machine.setKey, Nibble.ofInt?_natCast]
    rfl

/-- To the machine, `_key_press` and `_key_release` are calls of `set_key`, and they never fail. -/
theorem setKey_eq (w : Window) (symbol : String) (down : Bool) :
    w.setKey symbol down =
      { window := { w with machine := w.machine.applyAll (keyCalls symbol down) } } := by
  rw [applyAll_keyCalls]
  unfold setKey
  cases Keyboard.key? symbol with
  | none => rfl
  | some key =>
    simp only [Machine.setKey, Nibble.ofInt?_natCast]
    rfl

theorem answer_handle (hb : Bounded w.machine) (e : Event) : Answer w e (w.handle e) := by
  cases e with
  | frame => exact answer_frame hb
  | close => exact .close
  | press symbol =>
    rw [handle]
    split
    · next hs =>
      rw [hs]
      exact .escape
    · next hs =>
      rw [setKey_eq]
      exact .press hs
  | release symbol =>
    rw [handle, setKey_eq]
    exact .release symbol
  | kill => exact .kill

/-! ## Closing -/

/-- Closing is for good. A window that is closing asks for nothing and runs no frame; what it asks
for when it begins to is to be taken down, unless the toolkit has refused. -/
structure Careful (w : Window) (e : Event) (r : Reply) : Prop where
  stays : w.closing = true → r.window.closing = true
  silent : w.closing = true → r.requests = [] ∧ r.refused = none
  still : w.closing = true → e = .frame → r.window.machine = w.machine
  last : w.closing = false → r.window.closing = true →
    r.requests = [.quit, .destroy] ∨ r.requests = [] ∧ r.refused ≠ none

theorem Careful.of_window {window : Window} (hc : window.closing = w.closing)
    (hm : e = .frame → window.machine = w.machine) : Careful w e { window } where
  stays := hc.trans
  silent _ := ⟨rfl, rfl⟩
  still _ := hm
  last hf ht := by
    rw [hc.symm.trans ht] at hf
    cases hf

/-- A window that is not closing yet has only to be careful about how it begins to. -/
theorem Careful.of_not_closing (hc : w.closing = false)
    (hl : r.window.closing = true →
      r.requests = [.quit, .destroy] ∨ r.requests = [] ∧ r.refused ≠ none) : Careful w e r where
  stays ht := absurd ht (Bool.eq_false_iff.1 hc)
  silent ht := absurd ht (Bool.eq_false_iff.1 hc)
  still ht := absurd ht (Bool.eq_false_iff.1 hc)
  last _ := hl

theorem close_of_closing (h : w.closing = true) : w.close = { window := w } := if_pos h

theorem close_of_not_closing (hc : w.closing = false) :
    w.close.window = { w with closing := true } ∧
      (w.close.requests = [.quit, .destroy] ∨ w.close.requests = [] ∧ w.close.refused ≠ none) := by
  unfold close
  rw [if_neg (Bool.eq_false_iff.1 hc)]
  dsimp only
  split
  · exact ⟨rfl, .inl rfl⟩
  · exact ⟨rfl, .inr ⟨rfl, Option.some_ne_none _⟩⟩

theorem window_close (w : Window) : w.close.window = { w with closing := true } := by
  cases hc : w.closing with
  | true => rw [close_of_closing hc, ← hc]
  | false => exact (close_of_not_closing hc).1

theorem asked_close (w : Window) : w.close.asked = 0 := by
  cases hc : w.closing with
  | true => rw [close_of_closing hc]; rfl
  | false =>
    rcases (close_of_not_closing hc).2 with h | ⟨h, -⟩
    · rw [Reply.asked, h]; rfl
    · exact asked_of_requests h

theorem careful_close (w : Window) : Careful w e w.close := by
  cases hc : w.closing with
  | true =>
    rw [close_of_closing hc]
    exact .of_window rfl fun _ => rfl
  | false => exact .of_not_closing hc fun _ => (close_of_not_closing hc).2

theorem Answer.careful (h : Answer w e r) : Careful w e r := by
  cases h with
  | unasked | late => exact .of_window rfl fun _ => rfl
  | frame hp hc ha hw =>
    obtain ⟨machine, error, hadvance⟩ := w.advance_window
    refine .of_not_closing hc fun ht => ?_
    rw [hw, hadvance, hc] at ht
    cases ht
  | refused hp hc ha hw hn hf => exact .of_not_closing hc fun _ => .inr ⟨hn, hf⟩
  | close | escape => exact careful_close w
  | press | release | kill => exact .of_window rfl nofun

end Window

end Chip8
