import Chip8.Proofs.Cadence
import Chip8.Proofs.Faults
import Chip8.Proofs.KeyWait
import Chip8.Proofs.WriteSets

/-!
# Control flow

Where a step goes on. The program counter stands behind the word when its instruction is executed,
and most instructions leave it there: they compute the same wherever they stand. The others are
jumps, calls and returns, tests that pass over the next word, and the wait for a key; `target` says
where each of them leads. An address outside memory is no fault of the step that leads there. It is
the fault of the next step, which finds no word.
-/

namespace Chip8

/-- Operations that pass over the next word if a test comes out. -/
def Op.skips : Op → Bool
  | skipEqByte | skipNeByte | skipEqReg | skipNeReg | skipPressed | skipReleased => true
  | _ => false

/-- Operations that always go on behind their word. -/
def Op.isStraight : Op → Bool
  | ret | jump | call | jumpOffset | waitKey => false
  | op => !op.skips

namespace Machine

variable {m : Machine} {ins : Instruction} {op : Op} {w : Nat}

/-! ## Straight instructions -/

/-- The machine with all that decides what comes next taken from `c`: where it stands and has to
return to, and whether it goes on at all. -/
def controlledBy (m c : Machine) : Machine :=
  { m with
    pc := c.pc
    sp := c.sp
    stack := c.stack
    waiting := c.waiting
    keyRegister := c.keyRegister
    crashed := c.crashed
    cycles := c.cycles }

theorem storeBytes_controlledBy (m c : Machine) (bs : List UInt8) :
    (m.controlledBy c).storeBytes bs = (m.storeBytes bs).map (·.controlledBy c) := by
  rw [storeBytes_eq, storeBytes_eq]
  rfl

theorem loadRegs_controlledBy (m c : Machine) (x : Nibble) :
    (m.controlledBy c).loadRegs x = (m.loadRegs x).map (·.controlledBy c) := by
  rw [loadRegs_eq, loadRegs_eq]
  rfl

theorem drawSprite_controlledBy (m c : Machine) (vx vy : UInt8) (n : Nat) :
    (m.controlledBy c).drawSprite vx vy n = (m.drawSprite vx vy n).map (·.controlledBy c) := by
  cases hs : Memory.stop m.index n with
  | none =>
    rw [drawSprite_of_fits hs, drawSprite_of_fits (m := m.controlledBy c) hs]
    rfl
  | some a =>
    rw [drawSprite_of_stop hs, drawSprite_of_stop (m := m.controlledBy c) hs]
    rfl

/-- A straight instruction does not look at what decides where to go on, and leaves it alone. -/
theorem execute_controlledBy (h : ins.op.isStraight = true) (m c : Machine) :
    (m.controlledBy c).execute ins = (m.execute ins).map (·.controlledBy c) := by
  obtain ⟨op, word, x, y, n, kk, nnn⟩ := ins
  cases op with
  | ret | jump | call | jumpOffset | waitKey => cases h
  | skipEqByte | skipNeByte | skipEqReg | skipNeReg | skipPressed | skipReleased => cases h
  | storeDecimal => exact m.storeBytes_controlledBy c (decimalDigits (m.registers.read x))
  | storeRegs => exact m.storeBytes_controlledBy c (m.registers.toList.take (x + 1))
  | loadRegs => exact m.loadRegs_controlledBy c x
  | draw => exact m.drawSprite_controlledBy c _ _ _
  | _ => rfl

theorem controlledBy_execute (h : ins.op.isStraight = true) (m : Machine) :
    (m.execute ins).machine.controlledBy m = (m.execute ins).machine :=
  (congrArg Outcome.machine (execute_controlledBy h m m)).symm

theorem pc_execute_of_straight (h : ins.op.isStraight = true) (m : Machine) :
    (m.execute ins).machine.pc = m.pc :=
  (congrArg Machine.pc (controlledBy_execute h m)).symm

/-! ## Targets -/

/-- The test of the instruction `w` of the form `op` comes out, and the next word is passed over. A
key that does not exist is neither down nor up. -/
def passesOver (m : Machine) (op : Op) (w : Nat) : Bool :=
  let vx := m.registers.read (digit w 0x100)
  let vy := m.registers.read (digit w 0x10)
  match op with
  | .skipEqByte => (vx.toNat : Int) = (w % 0x100 : Nat)
  | .skipNeByte => (vx.toNat : Int) ≠ (w % 0x100 : Nat)
  | .skipEqReg => vx = vy
  | .skipNeReg => vx ≠ vy
  | .skipPressed => m.keypad.toList[vx.toNat]? = some true
  | .skipReleased => m.keypad.toList[vx.toNat]? = some false
  | _ => false

def returnAddress (m : Machine) : Int := (m.stack.toList.getD (m.sp - 1).toNat 0).toNat

/-- The address at which the machine goes on when it has completed the instruction `w` of the form
`op`. -/
def target (m : Machine) (op : Op) (w : Nat) : Int :=
  match op with
  | .jump | .call => (w % 0x1000 : Nat)
  | .jumpOffset => (w % 0x1000 : Nat) + (m.registers.read 0).toNat
  | .ret => m.returnAddress
  | .waitKey => if m.Idle then m.pc else m.pc + 2
  | op => if m.passesOver op w then m.pc + 4 else m.pc + 2

theorem target_of_straight (h : op.isStraight = true) (m : Machine) (w : Nat) :
    m.target op w = m.pc + 2 := by
  cases op <;> first | rfl | cases h

/-! ## Instructions that go elsewhere -/

theorem pc_skipIf (m : Machine) (c : Bool) :
    (m.skipIf c).pc = if c then m.pc + 2 else m.pc := by
  cases c <;> rfl

theorem pc_fetched_skipIf (m : Machine) (c : Bool) :
    (m.fetched.skipIf c).pc = if c then m.pc + 4 else m.pc + 2 := by
  rw [pc_skipIf]
  cases c
  · rfl
  · exact Int.add_assoc m.pc 2 2

/-- A test of a key that exists passes over a word if the key is as it asks. -/
theorem skipIfKey_of_error_eq_none {v : UInt8} (down : Bool)
    (he : (m.skipIfKey v down).error = none) :
    m.skipIfKey v down = .done (m.skipIf (m.keypad.toList[v.toNat]? = some down)) := by
  by_cases hv : v.toNat < 16
  · have hk := m.keypad.getElem?_toList ⟨v.toNat, hv⟩
    rw [skipIfKey_of_lt hv, hk, Bool.beq_eq_decide_eq]
    simp only [Option.some_inj]
  · rw [skipIfKey_of_le (by omega)] at he
    cases he

theorem error_skipIfKey_of_passes {v : UInt8} {down : Bool}
    (h : m.keypad.toList[v.toNat]? = some down) : (m.skipIfKey v down).error = none := by
  by_cases hv : v.toNat < 16
  · rw [skipIfKey_of_lt hv]
    rfl
  · rw [List.getElem?_eq_none (by rw [Vector.length_toList]; omega)] at h
    cases h

/-- `_op_ld_vx_k` goes back to its own word if no key is down. -/
theorem pc_waitKey (m : Machine) (x : Nibble) :
    (m.waitKey x).pc = if m.Idle then m.pc - 2 else m.pc := by
  unfold waitKey
  by_cases hi : m.Idle
  · rw [if_pos hi, pressedKey?_eq_none.2 hi]
  · obtain ⟨k, hk⟩ := exists_pressedKey hi
    rw [if_neg hi, hk]
    rfl

theorem Pending.pc_call (h : Pending m) {a : Int} (he : (m.call a).error = none) :
    (m.call a).machine.pc = a := by
  have hp := h.two_le_pc
  have hp' := h.pc_le_size
  by_cases hs : m.sp < 16
  · obtain ⟨k, -, hc⟩ := call_of_room h.sp_nonneg hs ⟨by omega, by omega⟩ a
    rw [hc]
    rfl
  · rw [call_of_full (by omega)] at he
    cases he

/-- `_op_ret` goes to the return address of the latest call. -/
theorem Pending.pc_ret (h : Pending m) (he : m.ret.error = none) :
    m.ret.machine.pc = m.returnAddress := by
  have h0 := h.sp_nonneg
  by_cases hs : m.sp = 0
  · rw [ret_of_empty hs] at he
    cases he
  · obtain ⟨k, hk, hr⟩ := ret_of_pending (m := m) (by omega) h.sp_le
    have hslot : (m.sp - 1).toNat = k.val := by omega
    rw [hr, returnAddress, hslot, List.getD_eq_getElem?_getD, Bank.getElem?_toList]
    rfl

/-! ## Steps -/

namespace Ready

/-- An instruction that does not fail goes on at its target. -/
theorem pc_attempt (hr : m.Ready) (hb : Bounded m) (h : m.Meets op w)
    (he : (m.attempt op w).error = none) : (m.attempt op w).machine.pc = m.target op w := by
  have hp := hb.fetched hr h.1
  cases op with
  | jump | jumpOffset => rfl
  | call => exact hp.pc_call he
  | ret => exact hp.pc_ret he
  | skipEqByte | skipNeByte | skipEqReg | skipNeReg => exact m.pc_fetched_skipIf _
  | skipPressed =>
    have hs := skipIfKey_of_error_eq_none (m := m.fetched) true he
    exact (congrArg (fun o => o.machine.pc) hs).trans (m.pc_fetched_skipIf _)
  | skipReleased =>
    have hs := skipIfKey_of_error_eq_none (m := m.fetched) false he
    exact (congrArg (fun o => o.machine.pc) hs).trans (m.pc_fetched_skipIf _)
  | waitKey =>
    refine (m.fetched.pc_waitKey _).trans ?_
    show (if m.Idle then m.pc + 2 - 2 else m.pc + 2) = if m.Idle then m.pc else m.pc + 2
    rw [Int.add_sub_cancel]
  | _ => exact pc_execute_of_straight rfl m.fetched

theorem pc_step (hr : m.Ready) (hb : Bounded m) (h : m.Meets op w) (he : m.step.error = none) :
    m.step.machine.pc = m.target op w := by
  rw [hr.error_step h] at he
  rw [hr.step_of_done h he]
  exact hr.pc_attempt hb h he

/-- An instruction that passes over the next word does not fail, wherever that leads. -/
theorem error_step_of_passesOver (hr : m.Ready) (h : m.Meets op w)
    (hp : m.passesOver op w = true) : m.step.error = none := by
  rw [hr.error_step h]
  cases op with
  | skipEqByte | skipNeByte | skipEqReg | skipNeReg => rfl
  | skipPressed => exact error_skipIfKey_of_passes (of_decide_eq_true hp)
  | skipReleased => exact error_skipIfKey_of_passes (of_decide_eq_true hp)
  | _ => cases hp

/-- A test fails by a key that does not exist, if at all. -/
theorem keyIndex_of_skips (hr : m.Ready) (h : m.Meets op w) (hop : op.skips = true) {e : Error}
    (he : m.step.error = some e) : ∃ key, 15 < key ∧ e = .fault (.keyIndex key) := by
  have hkey : op = .skipPressed ∨ op = .skipReleased := by
    rw [hr.error_step h] at he
    cases op <;> simp [Op.skips] at hop ⊢ <;> cases he
  rw [hr.error_step_key h hkey] at he
  split at he <;> cases he
  exact ⟨_, by omega, rfl⟩

end Ready

/-- A step that leads out of memory leaves it to the next one to fail. -/
theorem Bounded.step_step_of_outside (hb : Bounded m) (he : m.step.error = none)
    (hpc : 4095 ≤ m.step.machine.pc) :
    m.step.machine.step.error = some (.fault (.memoryAccess m.step.machine.pc)) ∧
      m.step.machine.step.machine = { m.step.machine with crashed := true } := by
  have hs := hb.step
  -- a machine that waits still stands on a word
  have hw : m.step.machine.waiting = false := by
    refine Bool.eq_false_iff.2 fun hw => ?_
    have hle := hs.bounded.pc_le_of_waiting hw
    omega
  have hn : m.step.machine.memory.word? m.step.machine.pc = none :=
    Memory.word?_eq_none.2 (.inr hpc)
  rw [Ready.step_of_no_word ⟨hs.not_crashed he, hw⟩ hn]
  exact ⟨rfl, rfl⟩

/-- A completed step goes on where its instruction leads: a jump, a call or a return to its address,
a test that comes out behind the next word, a wait for a key nowhere as long as no key is down, and
every other instruction behind its word, also if it has just written there. A test fails only for a
key that does not exist, never for what it passes over, and an address outside memory is reported by
the step that finds no word at it. -/
theorem pc_step_of_reachable (h : Reachable m) (hr : m.Ready) :
    (m.step.error = none →
      (∃ op w, m.Meets op w) ∧ ∀ op w, m.Meets op w → m.step.machine.pc = m.target op w) ∧
    (m.step.error = none → ∀ a, m.step.machine.memory.read? a ≠ m.memory.read? a →
      m.step.machine.pc = m.pc + 2) ∧
    (∀ op w, m.Meets op w → op.skips = true →
      (m.passesOver op w = true → m.step.error = none ∧ m.step.machine.pc = m.pc + 4) ∧
      ∀ e, m.step.error = some e → ∃ key, 15 < key ∧ e = .fault (.keyIndex key)) ∧
    (m.step.error = none → 4095 ≤ m.step.machine.pc →
      m.step.machine.step.error = some (.fault (.memoryAccess m.step.machine.pc)) ∧
        m.step.machine.step.machine = { m.step.machine with crashed := true }) := by
  have hb := h.bounded
  refine ⟨fun he => ⟨?_, fun op w hm => hr.pc_step hb hm he⟩, fun he a ha => ?_,
    fun op w hm hop => ⟨fun hp => ?_, fun e he => hr.keyIndex_of_skips hm hop he⟩,
    hb.step_step_of_outside⟩
  · obtain ⟨op, w, hm, -⟩ := hr.exists_meets he
    exact ⟨op, w, hm⟩
  · obtain ⟨w, ⟨hm, -⟩ | ⟨hm, -⟩⟩ := (hr.confined_step hb).memory a ha
    · exact hr.pc_step hb hm he
    · exact hr.pc_step hb hm he
  · have he := hr.error_step_of_passesOver hm hp
    refine ⟨he, (hr.pc_step hb hm he).trans ?_⟩
    cases op <;> exact if_pos hp

/-- A test in the last but one word of memory that passes over the last, and an instruction that
stores a jump over itself. -/
theorem pc_step_of_reachable_edges :
    let m := (fresh 0).applyAll
      [.load (.bytes [0x60, 0x31, 0xAF, 0xFC, 0xF1, 0x55, 0x1F, 0xFC]), .run 4 10]
    let n := (fresh 0).applyAll [.load (.bytes [0x60, 0x12, 0xA2, 0x04, 0xF1, 0x55]), .run 2 10]
    (Reachable m ∧ m.Ready ∧ m.Meets .skipEqByte 0x3100) ∧
      m.step.machine.pc = 0x1000 ∧
      m.step.machine.step.error = some (.fault (.memoryAccess 0x1000)) ∧
    (Reachable n ∧ n.Ready ∧ n.Meets .storeRegs 0xF155) ∧
      n.step.machine.memory.word? n.pc = some 0x1200 ∧ n.step.machine.pc = 0x206 := by
  intro m n
  have hm : Reachable m := (reachable_fresh 0).applyAll _ (by decide)
  have hn : Reachable n := (reachable_fresh 0).applyAll _ (by decide)
  obtain ⟨hmc, hmw, hword, hmpc, hover⟩ : m.crashed = false ∧ m.waiting = false ∧
      m.memory.word? m.pc = some 0x3100 ∧ m.pc = 0xFFC ∧
      m.passesOver .skipEqByte 0x3100 = true := by decide +kernel
  obtain ⟨hnc, hnw, hword', hnpc, hne, hover'⟩ : n.crashed = false ∧ n.waiting = false ∧
      n.memory.word? n.pc = some 0xF155 ∧ n.pc = 0x204 ∧ n.step.error = none ∧
      n.step.machine.memory.word? n.pc = some 0x1200 := by decide +kernel
  have hmeets : m.Meets .skipEqByte 0x3100 := ⟨hword, by decide⟩
  have hmeets' : n.Meets .storeRegs 0xF155 := ⟨hword', by decide⟩
  clear_value m n
  have hmr : m.Ready := ⟨hmc, hmw⟩
  have hnr : n.Ready := ⟨hnc, hnw⟩
  obtain ⟨-, -, htest, hout⟩ := pc_step_of_reachable hm hmr
  obtain ⟨he, hpc⟩ := (htest _ _ hmeets rfl).1 hover
  rw [hmpc] at hpc
  have hfault := (hout he (by rw [hpc]; decide)).1
  rw [hpc] at hfault
  have hpc' := ((pc_step_of_reachable hn hnr).1 hne).2 _ _ hmeets'
  rw [target_of_straight rfl, hnpc] at hpc'
  exact ⟨⟨hm, hmr, hmeets⟩, hpc, hfault, ⟨hn, hnr, hmeets'⟩, hover', hpc'⟩

end Machine

end Chip8
