import Chip8.Machine.Call
import Chip8.Proofs.Stepping

/-!
# Waiting for a key

An instruction that waits for a key finds one at once or parks the machine, which then looks for a
key at every step. Both ways end alike: ticks and keys do to a parked machine what they would do
before the instruction, so the steps at which no key is down can be left out.
-/

namespace Chip8

/-- Time passes, or a key changes. -/
def Call.isInput : Call → Bool
  | .tick | .setKey _ _ => true
  | _ => false

namespace Machine

variable {m : Machine} {w : Nat} {x k : Nibble}

/-- No key is down. -/
def Idle (m : Machine) : Prop := ∀ k, m.keypad.read k = false

instance decidableIdle : Decidable m.Idle :=
  inferInstanceAs (Decidable (∀ k, m.keypad.read k = false))

/-! ## The lowest key -/

theorem pressedKey?_eq_none : m.pressedKey? = none ↔ m.Idle := by
  simp [pressedKey?, Idle]

/-- `_first_pressed_key` gives the smallest of the keys that are down. -/
theorem pressedKey?_eq_some :
    m.pressedKey? = some k ↔ m.keypad.read k = true ∧ ∀ j < k, m.keypad.read j = false := by
  rw [pressedKey?, List.find?_eq_some_iff_getElem]
  constructor
  · rintro ⟨hk, i, hi, rfl, hlow⟩
    refine ⟨hk, fun j hj => ?_⟩
    have hj' : j.val < i := by simpa [Fin.lt_def] using hj
    simpa using hlow j hj'
  · rintro ⟨hk, hlow⟩
    refine ⟨hk, k.val, by simp, by simp, fun i hi => ?_⟩
    have hf := hlow ⟨i, by omega⟩ (Fin.lt_def.2 hi)
    simpa using hf

theorem exists_pressedKey (hk : ¬ m.Idle) : ∃ k, m.pressedKey? = some k := by
  rw [← Option.ne_none_iff_exists', ne_eq, pressedKey?_eq_none]
  exact hk

/-! ## Parked machines -/

def parked (m : Machine) (x : Nibble) : Machine :=
  { m with waiting := true, keyRegister := x, cycles := m.cycles + 1 }

namespace Ready

theorem step_of_waitKey (hr : m.Ready) (h : m.Meets .waitKey w) :
    m.step = .done { m.fetched.waitKey (digit w 0x100) with
      cycles := (m.fetched.waitKey (digit w 0x100)).cycles + 1 } :=
  hr.step_of_done h rfl

theorem step_of_idle (hr : m.Ready) (h : m.Meets .waitKey w) (hk : m.Idle) :
    m.step = .done (m.parked (digit w 0x100)) := by
  have hn : m.fetched.pressedKey? = none := pressedKey?_eq_none.2 hk
  rw [hr.step_of_waitKey h, waitKey, hn, parked]
  simp only [fetched, Int.add_sub_cancel]

theorem step_of_pressed (hr : m.Ready) (h : m.Meets .waitKey w) (hk : m.pressedKey? = some k) :
    m.step = .done { m.setReg (digit w 0x100) (.ofNat k) with
      pc := m.pc + 2, cycles := m.cycles + 1 } := by
  have hs : m.fetched.pressedKey? = some k := hk
  rw [hr.step_of_waitKey h, waitKey, hs]
  rfl

end Ready

/-- A parked machine stays as it is until a key comes. -/
theorem step_parked_of_idle (hc : m.crashed = false) (hk : m.Idle) :
    (m.parked x).step = .done (m.parked x) := by
  have hn : (m.parked x).pressedKey? = none := pressedKey?_eq_none.2 hk
  rw [step_of_waiting (m := m.parked x) hc rfl, poll, hn]

theorem step_parked_of_pressed (hc : m.crashed = false) (hk : m.pressedKey? = some k) :
    (m.parked x).step = .done { m.setReg x (.ofNat k) with
      waiting := false, keyRegister := x, pc := m.pc + 2, cycles := m.cycles + 2 } := by
  have hs : (m.parked x).pressedKey? = some k := hk
  rw [step_of_waiting (m := m.parked x) hc rfl, poll, hs]
  rfl

/-- A key that is down ends the wait as it would have ended the instruction. -/
theorem machine_step_parked (hr : m.Ready) (h : m.Meets .waitKey w) (hk : ¬ m.Idle) :
    let waited := ((m.parked (digit w 0x100)).step).machine
    waited = { m.step.machine with
      keyRegister := digit w 0x100, cycles := m.step.machine.cycles + 1 } ∧
    waited.pc = m.pc + 2 ∧ waited.waiting = false ∧
    ∃ k, (waited.keypad.read k = true ∧ ∀ j < k, waited.keypad.read j = false) ∧
      waited.registers.read (digit w 0x100) = .ofNat k := by
  obtain ⟨k, hs⟩ := exists_pressedKey hk
  rw [step_parked_of_pressed hr.not_crashed hs, hr.step_of_pressed h hs]
  refine ⟨?_, rfl, rfl, k, pressedKey?_eq_some.1 hs, ?_⟩
  · simp only [Outcome.done, setReg, hr.not_waiting]
  · simp only [Outcome.done, setReg, Bank.read_write, if_true]

/-! ## Ticks and keys -/

theorem apply_parked {c : Call} (hc : c.isInput = true) :
    ((m.parked x).apply c).machine = (m.apply c).machine.parked x := by
  cases c <;> cases hc
  case tick => rfl
  case setKey key down =>
    simp only [apply, setKey]
    split <;> rfl

theorem apply_input {c : Call} (hc : c.isInput = true) (m : Machine) :
    ∃ delay sound keypad, (m.apply c).machine = { m with delay, sound, keypad } := by
  cases c <;> cases hc
  case tick => exact ⟨_, _, _, rfl⟩
  case setKey key down =>
    obtain ⟨keypad, hm⟩ := m.machine_setKey key down
    exact ⟨_, _, keypad, hm⟩

/-- Ticks and keys change nothing but timers and keypad. -/
theorem applyAll_inputs {cs : List Call} (hcs : ∀ c ∈ cs, c.isInput = true) (m : Machine) :
    ∃ delay sound keypad, m.applyAll cs = { m with delay, sound, keypad } := by
  induction cs generalizing m with
  | nil => exact ⟨_, _, _, rfl⟩
  | cons c cs ih =>
    obtain ⟨delay, sound, keypad, h⟩ := apply_input (hcs c List.mem_cons_self) m
    rw [applyAll_cons, h]
    exact ih (fun b hb => hcs b (List.mem_cons_of_mem c hb)) _

/-! ## Waiting -/

/-- A parked machine goes through steps at which no key is down as if they were not there. -/
theorem applyAll_parked {cs : List Call} (hcs : ∀ c ∈ cs, c = .step ∨ c.isInput = true)
    (hc : m.crashed = false)
    (hidle : ∀ pre post, cs = pre ++ .step :: post → ((m.parked x).applyAll pre).Idle) :
    (m.parked x).applyAll cs = (m.applyAll (cs.filter Call.isInput)).parked x := by
  induction cs generalizing m with
  | nil => rfl
  | cons c cs ih =>
    have hrest : ∀ b ∈ cs, b = .step ∨ b.isInput = true :=
      fun b hb => hcs b (List.mem_cons_of_mem c hb)
    obtain ⟨u, hu, hcu, hf⟩ : ∃ u : Machine, ((m.parked x).apply c).machine = u.parked x ∧
        u.crashed = false ∧
        m.applyAll ((c :: cs).filter Call.isInput) = u.applyAll (cs.filter Call.isInput) := by
      rcases hcs c List.mem_cons_self with rfl | hin
      · have hs := step_parked_of_idle (x := x) hc (hidle [] cs rfl)
        exact ⟨m, congrArg Outcome.machine hs, hc, rfl⟩
      · obtain ⟨delay, sound, keypad, h⟩ := apply_input hin m
        refine ⟨(m.apply c).machine, apply_parked hin, ?_, ?_⟩
        · rw [h]
          exact hc
        · rw [List.filter_cons_of_pos hin, applyAll_cons]
    rw [applyAll_cons, hu, hf]
    refine ih hrest hcu fun pre post h => ?_
    have hi := hidle (c :: pre) post (congrArg (c :: ·) h)
    rw [applyAll_cons, hu] at hi
    exact hi

/-- A wait that parks agrees with one that finds its key at once, whatever steps without a key,
ticks and keys lie between the first step and the last: until then the machine stands parked on the
instruction with the rest of it as it was, and then it is the one that ticks and keys and a single
step make, but for the cycle that parking took. -/
theorem applyAll_keyWait (hr : m.Ready) (h : m.Meets .waitKey w) (hk : m.Idle) {mid : List Call}
    (hmid : ∀ c ∈ mid, c = .step ∨ c.isInput = true)
    (hidle : ∀ pre post, mid = pre ++ .step :: post → (m.applyAll (.step :: pre)).Idle)
    (hlast : ¬ (m.applyAll (.step :: mid)).Idle) :
    (∀ pre post, mid = pre ++ post → ∃ delay sound keypad,
      m.applyAll (.step :: pre) =
        { m with
          waiting := true, keyRegister := digit w 0x100, cycles := m.cycles + 1
          delay, sound, keypad }) ∧
    let waited := m.applyAll (.step :: mid ++ [.step])
    let direct := m.applyAll (mid.filter Call.isInput ++ [.step])
    waited =
      { direct with keyRegister := digit w 0x100, cycles := direct.cycles + 1 } ∧
    waited.pc = m.pc + 2 ∧ waited.waiting = false ∧
    ∃ k, (waited.keypad.read k = true ∧ ∀ j < k, waited.keypad.read j = false) ∧
      waited.registers.read (digit w 0x100) = .ofNat k := by
  have hfirst : ∀ cs, m.applyAll (.step :: cs) = (m.parked (digit w 0x100)).applyAll cs := by
    intro cs
    rw [applyAll_cons, apply, hr.step_of_idle h hk]
    rfl
  have hparked : ∀ pre post, mid = pre ++ post →
      m.applyAll (.step :: pre) =
        (m.applyAll (pre.filter Call.isInput)).parked (digit w 0x100) := by
    intro pre post hpre
    rw [hfirst]
    refine applyAll_parked (fun c hc => hmid c ?_) hr.not_crashed fun pre' post' hpre' => ?_
    · rw [hpre]
      exact List.mem_append_left post hc
    · rw [← hfirst]
      exact hidle pre' (post' ++ post) (by rw [hpre, hpre']; simp)
  have hinputs : ∀ cs : List Call, ∀ c ∈ cs.filter Call.isInput, c.isInput = true :=
    fun cs c hc => (List.mem_filter.1 hc).2
  constructor
  · intro pre post hpre
    obtain ⟨delay, sound, keypad, hu⟩ := applyAll_inputs (hinputs pre) m
    exact ⟨delay, sound, keypad, by rw [hparked pre post hpre, hu]; rfl⟩
  · obtain ⟨delay, sound, keypad, hu⟩ := applyAll_inputs (hinputs mid) m
    have hwaited := hparked mid [] (List.append_nil mid).symm
    rw [hwaited] at hlast
    rw [applyAll_append, applyAll_append, hwaited]
    rw [hu] at hlast ⊢
    exact machine_step_parked (m := { m with delay, sound, keypad })
      ⟨hr.not_crashed, hr.not_waiting⟩ h hlast

/-- One step in vain, then two keys at once. -/
theorem applyAll_keyWait_two_keys :
    let m := (fresh 0).applyAll [.load (.bytes [0xF0, 0x0A])]
    let mid : List Call := [.tick, .step, .setKey 5 true, .setKey 3 true]
    let waited := m.applyAll (.step :: mid ++ [.step])
    let direct := m.applyAll ([.tick, .setKey 5 true, .setKey 3 true] ++ [.step])
    (m.Ready ∧ m.Meets .waitKey 0xF00A ∧ m.Idle) ∧
      waited = { direct with keyRegister := 0, cycles := direct.cycles + 1 } ∧
      waited.pc = m.pc + 2 ∧ waited.waiting = false := by
  intro m mid waited direct
  obtain ⟨hc, hw, hword, hk⟩ : m.crashed = false ∧ m.waiting = false ∧
      m.memory.word? m.pc = some 0xF00A ∧ m.Idle := by decide +kernel
  have hr : m.Ready := ⟨hc, hw⟩
  have hm : m.Meets .waitKey 0xF00A := ⟨hword, by decide⟩
  have hmid : ∀ c ∈ mid, c = .step ∨ c.isInput = true := by simp [mid, Call.isInput]
  have hidle : ∀ pre post, mid = pre ++ .step :: post → (m.applyAll (.step :: pre)).Idle := by
    intro pre post h
    rcases pre with _ | ⟨c, _ | ⟨d, pre⟩⟩
    · exact absurd (List.cons.inj h).1 (by simp)
    · rw [← (List.cons.inj h).1]
      decide +kernel
    · have hin : Call.step ∈ pre ++ .step :: post := by simp
      have ht : [.setKey 5 true, .setKey 3 true] = pre ++ .step :: post :=
        (List.cons.inj (List.cons.inj h).2).2
      rw [← ht] at hin
      simp at hin
  have hlast : ¬ (m.applyAll (.step :: mid)).Idle := by decide +kernel
  have hall := (applyAll_keyWait hr hm hk hmid hidle hlast).2
  exact ⟨⟨hr, hm, hk⟩, hall.1, hall.2.1, hall.2.2.1⟩

end Machine

end Chip8
