import Chip8.Machine.Call
import Chip8.Proofs.Execution
import Chip8.Proofs.Stepping

/-!
# Independent cadences

Whoever drives a machine chooses when timers tick and keys change. A tick or a key is a signal that
reaches timers and keypad and nothing else, and an instruction that neither reads nor overwrites
what the signal changes does not notice whether it comes before or after. Most instructions read
neither timers nor keypad, so the exceptions are few.
-/

namespace Chip8

def Outcome.map (f : Machine → Machine) (o : Outcome) : Outcome := { o with machine := f o.machine }

theorem Bank.write_comm {α : Type} {j k : Nibble} (h : j ≠ k) (b : Bank α) (a c : α) :
    (b.write j a).write k c = (b.write k c).write j a := by
  unfold write
  exact Vector.set_comm a c fun hv => h (Fin.ext hv)

open Machine (countdown)

/-- The next step looks for a key. -/
def Machine.Polls (m : Machine) : Prop := m.crashed = false ∧ m.waiting = true

/-- What a tick or a key does to a machine. -/
structure Signal where
  delay : Int → Int := id
  sound : Int → Int := id
  keypad : Bank Bool → Bank Bool := id

namespace Signal

variable {s : Signal} {m : Machine} {ins : Instruction}

/-- The machine when the signal has reached it. -/
def on (s : Signal) (m : Machine) : Machine :=
  { m with delay := s.delay m.delay, sound := s.sound m.sound, keypad := s.keypad m.keypad }

def tick : Signal where
  delay := countdown
  sound := countdown

def key (k : Nibble) (down : Bool) : Signal where
  keypad := fun b => b.write k down

/-- The instruction neither reads nor overwrites anything that the signal changes. -/
structure Passes (s : Signal) (m : Machine) (ins : Instruction) : Prop where
  loadDelay : ins.op = .loadDelay → s.delay m.delay = m.delay
  setDelay : ins.op = .setDelay → ∀ t, s.delay t = t
  setSound : ins.op = .setSound → ∀ t, s.sound t = t
  waitKey : ins.op = .waitKey → s.keypad m.keypad = m.keypad
  skipIfKey : ins.op = .skipPressed ∨ ins.op = .skipReleased → ∀ k : Nibble,
    (m.registers.read ins.x).toNat = k.val → (s.keypad m.keypad).read k = m.keypad.read k

theorem passes_tick
    (h : ins.op ≠ .loadDelay ∧ ins.op ≠ .setDelay ∧ ins.op ≠ .setSound) :
    tick.Passes m ins where
  loadDelay hop := absurd hop h.1
  setDelay hop := absurd hop h.2.1
  setSound hop := absurd hop h.2.2
  waitKey _ := rfl
  skipIfKey _ _ _ := rfl

theorem passes_key {k : Nibble} (down : Bool) (hw : ins.op ≠ .waitKey)
    (hk : ins.op = .skipPressed ∨ ins.op = .skipReleased →
      (m.registers.read ins.x).toNat ≠ k.val) : (key k down).Passes m ins where
  loadDelay _ := rfl
  setDelay _ _ := rfl
  setSound _ _ := rfl
  waitKey hop := absurd hop hw
  skipIfKey hop j hj := by
    refine (Bank.read_write _ _ _ _).trans (if_neg ?_)
    rintro rfl
    exact hk hop hj

/-! ## Instructions -/

theorem skipIf_on (c : Bool) : (s.on m).skipIf c = s.on (m.skipIf c) := by
  cases c
  · rfl
  · rfl

theorem call_on (target : Int) : (s.on m).call target = (m.call target).map s.on := by
  by_cases hs : 16 ≤ m.sp
  · rw [Machine.call_of_full hs, Machine.call_of_full (m := s.on m) hs]
    rfl
  · cases hk : Machine.slot? m.sp with
    | none =>
      simp only [Machine.call, on, hs, hk, if_false]
      rfl
    | some k =>
      simp only [Machine.call, on, hs, hk, if_false]
      rw [apply_ite (Outcome.map s.on)]
      rfl

theorem ret_on : (s.on m).ret = m.ret.map s.on := by
  by_cases hs : m.sp = 0
  · rw [Machine.ret_of_empty hs, Machine.ret_of_empty (m := s.on m) hs]
    rfl
  · cases hk : Machine.slot? (m.sp - 1) with
    | none =>
      simp only [Machine.ret, on, hs, hk, if_false]
      rfl
    | some k =>
      simp only [Machine.ret, on, hs, hk, if_false]
      rfl

theorem skipIfKey_on {v : UInt8} (down : Bool)
    (h : ∀ k : Nibble, v.toNat = k.val → (s.keypad m.keypad).read k = m.keypad.read k) :
    (s.on m).skipIfKey v down = (m.skipIfKey v down).map s.on := by
  by_cases hv : v.toNat < 16
  · have hk : (s.on m).keypad.read ⟨v.toNat, hv⟩ = m.keypad.read ⟨v.toNat, hv⟩ := h _ rfl
    rw [Machine.skipIfKey_of_lt hv, Machine.skipIfKey_of_lt hv, hk, skipIf_on]
    rfl
  · rw [Machine.skipIfKey_of_le (by omega), Machine.skipIfKey_of_le (by omega)]
    rfl

theorem pressedKey?_on (h : s.keypad m.keypad = m.keypad) :
    (s.on m).pressedKey? = m.pressedKey? :=
  congrArg (fun keypad => (List.finRange 16).find? (Bank.read keypad)) h

theorem waitKey_on (h : s.keypad m.keypad = m.keypad) (x : Nibble) :
    (s.on m).waitKey x = s.on (m.waitKey x) := by
  rw [Machine.waitKey, Machine.waitKey, pressedKey?_on h]
  cases m.pressedKey? with
  | none => rfl
  | some key => rfl

theorem storeBytes_on (bs : List UInt8) :
    (s.on m).storeBytes bs = (m.storeBytes bs).map s.on := by
  rw [Machine.storeBytes_eq, Machine.storeBytes_eq]
  simp only [on, Outcome.map, Machine.transferred]

theorem loadRegs_on (x : Nibble) : (s.on m).loadRegs x = (m.loadRegs x).map s.on := by
  rw [Machine.loadRegs_eq, Machine.loadRegs_eq]
  simp only [on, Outcome.map, Machine.transferred]

theorem drawSprite_on (vx vy : UInt8) (n : Nat) :
    (s.on m).drawSprite vx vy n = (m.drawSprite vx vy n).map s.on := by
  cases hs : Memory.stop m.index n with
  | none =>
    rw [Machine.drawSprite_of_fits hs, Machine.drawSprite_of_fits (m := s.on m) hs]
    rfl
  | some a =>
    rw [Machine.drawSprite_of_stop hs, Machine.drawSprite_of_stop (m := s.on m) hs]
    rfl

/-- An instruction goes the same way whether the signal comes before or after it. -/
theorem Passes.execute (h : s.Passes m ins) :
    (s.on m).execute ins = (m.execute ins).map s.on := by
  obtain ⟨hdelay, hsetDelay, hsetSound, hwait, hskip⟩ := h
  obtain ⟨op, word, x, y, n, kk, nnn⟩ := ins
  cases op with
  | ret => exact ret_on
  | call => exact call_on nnn
  | skipEqByte | skipNeByte | skipEqReg | skipNeReg => exact congrArg Outcome.done (skipIf_on _)
  | skipPressed => exact skipIfKey_on true (hskip (.inl rfl))
  | skipReleased => exact skipIfKey_on false (hskip (.inr rfl))
  | storeDecimal => exact storeBytes_on (Machine.decimalDigits (m.registers.read x))
  | storeRegs => exact storeBytes_on (m.registers.toList.take (x + 1))
  | loadRegs => exact loadRegs_on x
  | draw => exact drawSprite_on _ _ _
  | waitKey => exact congrArg Outcome.done (waitKey_on (hwait rfl) x)
  | loadDelay => exact congrArg (fun t => Outcome.done (s.on (m.setReg x (.ofInt t)))) (hdelay rfl)
  | setDelay =>
    exact congrArg (fun delay => Outcome.done { s.on m with delay }) (hsetDelay rfl _).symm
  | setSound =>
    exact congrArg (fun sound => Outcome.done { s.on m with sound }) (hsetSound rfl _).symm
  | _ => rfl

/-! ## Steps -/

theorem poll_on (h : s.keypad m.keypad = m.keypad) : (s.on m).poll = s.on m.poll := by
  rw [Machine.poll, Machine.poll, pressedKey?_on h]
  cases m.pressedKey? with
  | none => rfl
  | some key => rfl

/-- A step does not notice a signal that passes its instruction and, if it looks for a key, leaves
the keypad alone. -/
theorem step_on (hpoll : m.Polls → s.keypad m.keypad = m.keypad)
    (h : ∀ ins, m.next? = some ins → s.Passes m ins) : (s.on m).step = m.step.map s.on := by
  cases hc : m.crashed with
  | true =>
    rw [Machine.step_of_crashed hc, Machine.step_of_crashed (m := s.on m) hc]
    rfl
  | false =>
  cases hw : m.waiting with
  | true =>
    rw [Machine.step_of_waiting hc hw, Machine.step_of_waiting (m := s.on m) hc hw,
      poll_on (hpoll ⟨hc, hw⟩)]
    rfl
  | false =>
  have hr : m.Ready := ⟨hc, hw⟩
  have hr' : (s.on m).Ready := ⟨hc, hw⟩
  rcases m.fetch_cases with hn | ⟨w, hw, hu⟩ | ⟨op, w, hm⟩
  · rw [hr.step_of_no_word hn, hr'.step_of_no_word hn]
    rfl
  · rw [hr.step_of_unknown hw hu, hr'.step_of_unknown hw hu]
    rfl
  · have hp : s.Passes m.fetched (.ofWord op w) := { h _ (hr.next?_of_meets hm) with }
    have ha : (s.on m).attempt op w = (m.attempt op w).map s.on := hp.execute
    have hm' : (s.on m).Meets op w := hm
    rw [hr.step_of_meets hm, hr'.step_of_meets hm', ha]
    obtain ⟨n, e, log⟩ := m.attempt op w
    cases e with
    | none => rfl
    | some e => cases e <;> rfl

end Signal

namespace Machine

variable {m : Machine} {c d : Call} {s : Signal} {key : Int} {down : Bool}

/-- It makes no difference which of the two operations comes first: either way the machine is the
same in the end, and each of them reports what it would report alone. -/
structure Independent (m : Machine) (c d : Call) : Prop where
  machine : ((m.apply c).machine.apply d).machine = ((m.apply d).machine.apply c).machine
  left : ((m.apply d).machine.apply c).error = (m.apply c).error ∧
    ((m.apply d).machine.apply c).log = (m.apply c).log
  right : ((m.apply c).machine.apply d).error = (m.apply d).error ∧
    ((m.apply c).machine.apply d).log = (m.apply d).log

theorem Independent.symm (h : Independent m c d) : Independent m d c :=
  ⟨h.machine.symm, h.right, h.left⟩

/-! ## Ticks and keys as signals -/

theorem apply_tick (m : Machine) : m.apply .tick = .done (Signal.tick.on m) := rfl

theorem apply_setKey_of_key {k : Nibble} (hk : Nibble.ofInt? key = some k) (m : Machine) :
    m.apply (.setKey key down) = .done ((Signal.key k down).on m) := by
  rw [apply, setKey, hk]
  rfl

theorem apply_setKey_of_no_key (hk : Nibble.ofInt? key = none) (m : Machine) :
    m.apply (.setKey key down) = .fail m (.fault (.keyIndex key)) := by
  rw [apply, setKey, hk]

/-- A signal that an operation does not notice may come on either side of it. -/
theorem independent_of_signal (hd : ∀ n : Machine, n.apply d = .done (s.on n))
    (hc : (s.on m).apply c = (m.apply c).map s.on) : Independent m c d := by
  have hc' : (m.apply d).machine.apply c = (m.apply c).map s.on := by
    rw [hd]
    exact hc
  constructor
  · rw [hc', hd]
    rfl
  · rw [hc']
    exact ⟨rfl, rfl⟩
  · rw [hd, hd]
    exact ⟨rfl, rfl⟩

/-- What is no key has no effect on anything. -/
theorem independent_of_no_key (hk : Nibble.ofInt? key = none) (m : Machine) (c : Call) :
    Independent m c (.setKey key down) := by
  have hd : ∀ n : Machine, n.apply (.setKey key down) = .fail n (.fault (.keyIndex key)) :=
    apply_setKey_of_no_key hk
  constructor
  · rw [hd, hd]
    rfl
  · rw [hd]
    exact ⟨rfl, rfl⟩
  · rw [hd, hd]
    exact ⟨rfl, rfl⟩

theorem independent_step_tick (h : ∀ ins, m.next? = some ins →
    ins.op ≠ .loadDelay ∧ ins.op ≠ .setDelay ∧ ins.op ≠ .setSound) :
    Independent m .step .tick := by
  refine independent_of_signal apply_tick (Signal.step_on (fun _ => rfl) fun ins hn => ?_)
  exact Signal.passes_tick (h ins hn)

theorem independent_step_setKey (down : Bool) (hp : ¬ m.Polls)
    (h : ∀ ins, m.next? = some ins → ins.op ≠ .waitKey ∧
      (ins.op = .skipPressed ∨ ins.op = .skipReleased →
        ((m.registers.read ins.x).toNat : Int) ≠ key)) :
    Independent m .step (.setKey key down) := by
  cases hk : Nibble.ofInt? key with
  | none => exact independent_of_no_key hk m .step
  | some k =>
    refine independent_of_signal (apply_setKey_of_key hk)
      (Signal.step_on (fun hq => absurd hq hp) fun ins hn => ?_)
    have hkey := Nibble.ofInt?_eq_some.1 hk
    obtain ⟨hw, hs⟩ := h ins hn
    refine Signal.passes_key down hw fun hop hx => hs hop ?_
    rw [hx, hkey]

theorem independent_tick_setKey (m : Machine) (key : Int) (down : Bool) :
    Independent m .tick (.setKey key down) := by
  cases hk : Nibble.ofInt? key with
  | none => exact independent_of_no_key hk m .tick
  | some k => exact independent_of_signal (apply_setKey_of_key hk) rfl

theorem independent_setKey {key' : Int} (hne : key ≠ key') (m : Machine) (down down' : Bool) :
    Independent m (.setKey key down) (.setKey key' down') := by
  cases hj : Nibble.ofInt? key with
  | none => exact (independent_of_no_key hj m _).symm
  | some j =>
  cases hk : Nibble.ofInt? key' with
  | none => exact independent_of_no_key hk m _
  | some k =>
    have hjk : k ≠ j := by
      rintro rfl
      exact hne ((Nibble.ofInt?_eq_some.1 hj).trans (Nibble.ofInt?_eq_some.1 hk).symm)
    refine independent_of_signal (apply_setKey_of_key hk) ?_
    rw [apply_setKey_of_key hj, apply_setKey_of_key hj]
    exact congrArg (fun keypad => Outcome.done { m with keypad })
      (Bank.write_comm hjk m.keypad down' down)

/-- Timers and keys keep their own time. A tick may come before a step or after it, unless the step
executes an instruction that reads or sets a timer; a key may, unless the step looks for a key to
end a wait, executes the instruction that waits for one, or tests this very key. A tick and a key
may always change places, and so may two different keys. -/
theorem independent_cadences (m : Machine) :
    ((∀ ins, m.next? = some ins →
      ins.op ≠ .loadDelay ∧ ins.op ≠ .setDelay ∧ ins.op ≠ .setSound) →
        Independent m .step .tick) ∧
    (∀ (key : Int) (down : Bool), ¬ m.Polls →
      (∀ ins, m.next? = some ins → ins.op ≠ .waitKey ∧
        (ins.op = .skipPressed ∨ ins.op = .skipReleased →
          ((m.registers.read ins.x).toNat : Int) ≠ key)) →
        Independent m .step (.setKey key down)) ∧
    (∀ (key : Int) (down : Bool), Independent m .tick (.setKey key down)) ∧
    ∀ (key key' : Int) (down down' : Bool), key ≠ key' →
      Independent m (.setKey key down) (.setKey key' down') := by
  refine ⟨independent_step_tick, fun key down hp h => ?_, m.independent_tick_setKey,
    fun key key' down down' hne => independent_setKey hne m down down'⟩
  exact independent_step_setKey down hp h

/-- A return from nowhere that has crashed, a wait, and a test of another key. -/
theorem independent_cadences_crash_wait_test :
    let crashed := (fresh 0).applyAll [.load (.bytes [0x00, 0xEE]), .step]
    let parked := (fresh 0).applyAll [.load (.bytes [0xF0, 0x0A]), .step]
    let testing := (fresh 0).applyAll [.load (.bytes [0x60, 5, 0xE0, 0x9E]), .step]
    (crashed.step.error = some (.fault (.halted 0x202)) ∧ Independent crashed .step .tick ∧
      Independent crashed .step (.setKey 3 true)) ∧
    (parked.Polls ∧ Independent parked .step .tick ∧
      Independent parked .tick (.setKey 16 true)) ∧
    testing.Meets .skipPressed 0xE09E ∧ Independent testing .step (.setKey 4 true) ∧
      Independent testing (.setKey 4 true) (.setKey 5 true) := by
  intro crashed parked testing
  obtain ⟨hc, he⟩ : crashed.crashed = true ∧
      crashed.step.error = some (.fault (.halted 0x202)) := by decide +kernel
  obtain ⟨hp, hpw⟩ : parked.crashed = false ∧ parked.waiting = true := by decide +kernel
  obtain ⟨htc, htw, hword, hx⟩ : testing.crashed = false ∧ testing.waiting = false ∧
      testing.memory.word? testing.pc = some 0xE09E ∧ testing.registers.read 0 = 5 := by
    decide +kernel
  clear_value crashed parked testing
  have hcn : crashed.next? = none :=
    next?_of_not_ready fun hr => hr.crashed_ne_true hc
  have hpn : parked.next? = none :=
    next?_of_not_ready fun hr => hr.waiting_ne_true hpw
  have hm : testing.Meets .skipPressed 0xE09E := ⟨hword, by decide⟩
  have htn := Ready.next?_of_meets ⟨htc, htw⟩ hm
  refine ⟨⟨he, ?_, ?_⟩, ⟨⟨hp, hpw⟩, ?_, ?_⟩, hm, ?_, ?_⟩
  · refine (independent_cadences crashed).1 fun ins hn => ?_
    rw [hcn] at hn
    cases hn
  · refine (independent_cadences crashed).2.1 3 true (fun hq => ?_) fun ins hn => ?_
    · exact Bool.eq_false_iff.1 hq.1 hc
    · rw [hcn] at hn
      cases hn
  · refine (independent_cadences parked).1 fun ins hn => ?_
    rw [hpn] at hn
    cases hn
  · exact (independent_cadences parked).2.2.1 16 true
  · refine (independent_cadences testing).2.1 4 true (fun hq => ?_) fun ins hn => ?_
    · exact Bool.eq_false_iff.1 htw hq.2
    · rw [htn] at hn
      cases hn
      refine ⟨by decide, fun _ => ?_⟩
      show ((testing.registers.read 0).toNat : Int) ≠ 4
      rw [hx]
      decide
  · exact (independent_cadences testing).2.2.2 4 5 true true (by decide)

end Machine

end Chip8
