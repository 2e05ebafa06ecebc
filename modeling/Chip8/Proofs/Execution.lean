import Chip8.Machine.Execute

/-!
# Execution, case by case

What the parts of execution come to: a call, a return or a key test either goes through or fails and
changes nothing, and a transfer fails at the first address outside memory and keeps what it did
before. The other operations cannot fail.
-/

namespace Chip8

namespace Memory

theorem stop_eq_none {a : Int} (ha : 0 ≤ a) {n : Nat} :
    stop a n = none ↔ n = 0 ∨ a + n ≤ 4096 := by
  unfold stop
  split <;> simp <;> omega

/-- A transfer stops at the end of memory, or at once beyond it. -/
theorem stop_eq_some {a b : Int} (ha : 0 ≤ a) {n : Nat} :
    stop a n = some b ↔ 0 < n ∧ 4096 < a + n ∧ b = max a 4096 := by
  unfold stop
  split
  · simp
    omega
  · rw [if_neg (by omega), Option.some_inj]
    omega

end Memory

/-- The number of cells from the index register on that an instruction transfers. -/
def Instruction.span (ins : Instruction) : Nat :=
  match ins.op with
  | .storeDecimal => 3
  | .storeRegs | .loadRegs => ins.x + 1
  | .draw => ins.n.toNat
  | _ => 0

/-- Operations that transfer cells. -/
def Op.transfers : Op → Bool
  | .storeDecimal | .storeRegs | .loadRegs | .draw => true
  | _ => false

/-- Operations that can fail. -/
def Op.canFail : Op → Bool
  | .call | .ret | .skipPressed | .skipReleased => true
  | op => op.transfers

theorem Op.eq_of_transfers {op : Op} (h : op.transfers = true) :
    op = .storeDecimal ∨ (op = .storeRegs ∨ op = .loadRegs) ∨ op = .draw := by
  cases op <;> simp [transfers] at h ⊢

theorem Op.eq_of_canFail {op : Op} (h : op.canFail = true) :
    op = .ret ∨ op = .call ∨ (op = .skipPressed ∨ op = .skipReleased) ∨ op.transfers = true := by
  cases op <;> simp [canFail, transfers] at h ⊢

namespace Machine

variable {m : Machine}

/-! ## Calls -/

theorem slot?_natCast (k : Nibble) : slot? k.val = some k := by
  rw [slot?, if_neg (by omega), Nibble.ofInt?_natCast]

/-- A return address that fits its slot comes back as it was. -/
theorem toNat_ofInt_of_lt {a : Int} (h0 : 0 ≤ a) (h : a < 0x10000) :
    ((UInt16.ofInt a).toNat : Int) = a := by
  rw [UInt16.ofInt, UInt16.toNat_ofNat']
  omega

theorem call_of_full (h : 16 ≤ m.sp) (target : Int) :
    m.call target = .fail m (.fault (.stackOverflow (m.pc - 2))) :=
  if_pos h

theorem call_of_room (h0 : 0 ≤ m.sp) (h : m.sp < 16) (hpc : 0 ≤ m.pc ∧ m.pc < 0x10000)
    (target : Int) :
    ∃ k : Nibble, m.sp = k.val ∧ m.call target =
      .done { m with stack := m.stack.write k (.ofInt m.pc), sp := m.sp + 1, pc := target } := by
  obtain ⟨k, hk⟩ : ∃ k : Nibble, m.sp = k.val := ⟨⟨m.sp.toNat, by omega⟩, by simp; omega⟩
  refine ⟨k, hk, ?_⟩
  rw [call, if_neg (by omega), show slot? m.sp = some k by rw [hk, slot?_natCast]]
  exact if_pos hpc

theorem ret_of_empty (h : m.sp = 0) : m.ret = .fail m (.fault (.stackUnderflow (m.pc - 2))) :=
  if_pos h

theorem ret_of_pending (h0 : 0 < m.sp) (h : m.sp ≤ 16) :
    ∃ k : Nibble, m.sp = k.val + 1 ∧
      m.ret = .done { m with sp := m.sp - 1, pc := (m.stack.read k).toNat } := by
  obtain ⟨k, hk⟩ : ∃ k : Nibble, m.sp = k.val + 1 :=
    ⟨⟨m.sp.toNat - 1, by omega⟩, by simp; omega⟩
  refine ⟨k, hk, ?_⟩
  have hs : slot? (m.sp - 1) = some k := by
    rw [hk, Int.add_sub_cancel, slot?_natCast]
  simp only [ret, hs]
  exact if_neg (by omega)

/-! ## Keys -/

theorem skipIfKey_of_le {v : UInt8} (h : 16 ≤ v.toNat) (down : Bool) :
    m.skipIfKey v down = .fail m (.fault (.keyIndex v.toNat)) := by
  rw [skipIfKey, Nibble.ofInt?_eq_none.2 (by omega)]

theorem skipIfKey_of_lt {v : UInt8} (h : v.toNat < 16) (down : Bool) :
    m.skipIfKey v down = .done (m.skipIf (m.keypad.read ⟨v.toNat, h⟩ == down)) := by
  have hk : Nibble.ofInt? v.toNat = some ⟨v.toNat, h⟩ := Nibble.ofInt?_eq_some.2 rfl
  rw [skipIfKey, hk]

/-! ## What is left of the machine -/

theorem machine_call (m : Machine) (target : Int) :
    ∃ sp stack pc, (m.call target).machine = { m with sp, stack, pc } := by
  unfold call
  repeat' split
  all_goals exact ⟨_, _, _, rfl⟩

theorem machine_ret (m : Machine) : ∃ sp pc, m.ret.machine = { m with sp, pc } := by
  unfold ret
  dsimp only
  repeat' split
  all_goals exact ⟨_, _, rfl⟩

theorem machine_skipIf (m : Machine) (c : Bool) : ∃ pc, m.skipIf c = { m with pc } := by
  cases c <;> exact ⟨_, rfl⟩

theorem machine_skipIfKey (m : Machine) (key : UInt8) (down : Bool) :
    ∃ pc, (m.skipIfKey key down).machine = { m with pc } := by
  unfold skipIfKey
  split
  · exact m.machine_skipIf _
  · exact ⟨_, rfl⟩

theorem machine_waitKey (m : Machine) (x : Nibble) :
    ∃ registers waiting keyRegister pc,
      m.waitKey x = { m with registers, waiting, keyRegister, pc } := by
  unfold waitKey
  split <;> exact ⟨_, _, _, _, rfl⟩

/-! ## Transfers -/

theorem machine_transferred (m : Machine) (stop : Option Int) :
    (m.transferred stop).machine = m := rfl

theorem storeBytes_eq (m : Machine) (bs : List UInt8) :
    m.storeBytes bs =
      { m with memory := (m.memory.store m.index bs).1 }.transferred
        (Memory.stop m.index bs.length) := by
  rw [storeBytes, ← Memory.store_stop m.memory]

theorem loadRegs_eq (m : Machine) (x : Nibble) :
    m.loadRegs x =
      { m with registers := m.registers.overwrite (m.memory.load m.index (x + 1)).1 }.transferred
        (Memory.stop m.index (x + 1)) := by
  rw [loadRegs, ← Memory.load_stop m.memory]

theorem drawSprite_of_fits {n : Nat} (h : Memory.stop m.index n = none) (vx vy : UInt8) :
    m.drawSprite vx vy n =
      let d := m.display.draw vx.toNat vy.toNat (m.memory.load m.index n).1
      .done ({ m with display := d.1 }.setFlag d.2) := by
  rw [← Memory.load_stop m.memory] at h
  simp only [drawSprite, h]

theorem drawSprite_of_stop {n : Nat} {a : Int} (h : Memory.stop m.index n = some a)
    (vx vy : UInt8) :
    m.drawSprite vx vy n =
      { m with display :=
        (m.display.draw vx.toNat vy.toNat (m.memory.load m.index n).1).1 }.transferred
          (some a) := by
  rw [← Memory.load_stop m.memory] at h
  simp only [drawSprite, h]

theorem machine_drawSprite (m : Machine) (vx vy : UInt8) (n : Nat) :
    ∃ registers display, (m.drawSprite vx vy n).machine = { m with registers, display } := by
  cases hs : Memory.stop m.index n with
  | none =>
    rw [drawSprite_of_fits hs]
    exact ⟨_, _, rfl⟩
  | some a =>
    rw [drawSprite_of_stop hs]
    exact ⟨_, _, rfl⟩

/-! ## Errors -/

theorem error_transferred (m : Machine) (stop : Option Int) :
    (m.transferred stop).error = stop.map fun a => .fault (.memoryAccess a) := rfl

/-- An instruction that transfers cells fails at the first cell outside memory, if at all. -/
theorem error_execute_of_transfers {ins : Instruction} (h : ins.op.transfers = true) :
    (m.execute ins).error =
      (Memory.stop m.index ins.span).map fun a => .fault (.memoryAccess a) := by
  obtain ⟨op, word, x, y, n, kk, nnn⟩ := ins
  cases op <;> cases h
  case storeDecimal => exact congrArg Outcome.error (storeBytes_eq m _)
  case storeRegs =>
    have hl : (m.registers.toList.take (x + 1)).length = x + 1 := by
      rw [List.length_take, Vector.length_toList]
      omega
    refine (congrArg Outcome.error (storeBytes_eq m _)).trans ?_
    rw [error_transferred, hl]
    rfl
  case loadRegs => exact congrArg Outcome.error (loadRegs_eq m x)
  case draw =>
    show (m.drawSprite _ _ n.toNat).error = (Memory.stop m.index n.toNat).map _
    cases hs : Memory.stop m.index n.toNat with
    | none => rw [drawSprite_of_fits hs]; rfl
    | some a => rw [drawSprite_of_stop hs]; rfl

/-- The other instructions never fail. -/
theorem error_execute_of_canFail {ins : Instruction} (h : ins.op.canFail = false) :
    (m.execute ins).error = none := by
  obtain ⟨op, word, x, y, n, kk, nnn⟩ := ins
  cases op <;> first | rfl | cases h

end Machine

end Chip8
