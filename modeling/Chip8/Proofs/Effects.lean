import Chip8.Proofs.Bounds
import Chip8.Proofs.Transfers

/-!
# What instructions write

An instruction goes on somewhere or writes to one part of the machine, seldom to two. `Effect` lists
the ways, each with the operations that it belongs to, and `effect_execute` says that there are no
others. Whatever else an instruction leaves alone is read off from the list.
-/

namespace Chip8

theorem Bank.eq_of_read_write_ne {α : Type} {b : Bank α} {j k : Nibble} {a : α}
    (h : (b.write j a).read k ≠ b.read k) : k = j := by
  rw [read_write] at h
  by_cases hk : j = k
  · exact hk.symm
  · exact absurd (if_neg hk) h

namespace Op

/-- Operations that put a byte into the register `x`. -/
def setsRegister : Op → Bool
  | loadByte | addByte | loadReg | or | and | xor | loadDelay => true
  | _ => false

/-- Operations that put a byte into the register `x`, then set the flag. -/
def setsFlag : Op → Bool
  | addReg | sub | shiftRight | subFrom | shiftLeft => true
  | _ => false

/-- Operations that point the index register somewhere else. -/
def setsIndex : Op → Bool
  | loadIndex | addIndex | loadGlyph => true
  | _ => false

end Op

namespace Machine

/-- The machine `m` may become the other by executing the instruction. -/
inductive Effect (m : Machine) (ins : Instruction) : Machine → Prop
  | goto (pc : Int) : Effect m ins { m with pc }
  | call (h : ins.op = .call) (k : Nibble) (hk : m.sp = k.val) (slot : UInt16) (pc : Int) :
    Effect m ins { m with stack := m.stack.write k slot, sp := m.sp + 1, pc }
  | ret (h : ins.op = .ret) (pc : Int) : Effect m ins { m with sp := m.sp - 1, pc }
  | register (h : ins.op.setsRegister = true) (v : UInt8) : Effect m ins (m.setReg ins.x v)
  | flag (h : ins.op.setsFlag = true) (v : UInt8) (on : Bool) :
    Effect m ins ((m.setReg ins.x v).setFlag on)
  | random (h : ins.op = .random) (random : Random.Generator) (v : UInt8) :
    Effect m ins ({ m with random }.setReg ins.x v)
  | key (h : ins.op = .waitKey) (v : UInt8) : Effect m ins (m.setReg ins.x v)
  | park (h : ins.op = .waitKey) (pc : Int) :
    Effect m ins { m with waiting := true, keyRegister := ins.x, pc }
  | index (h : ins.op.setsIndex = true) (index : Int) : Effect m ins { m with index }
  | delay (h : ins.op = .setDelay) (delay : Int) : Effect m ins { m with delay }
  | sound (h : ins.op = .setSound) (sound : Int) : Effect m ins { m with sound }
  | store (h : ins.op = .storeDecimal ∨ ins.op = .storeRegs) :
    Effect m ins { m with memory := (m.memory.store m.index (m.stores ins)).1 }
  | load (h : ins.op = .loadRegs) :
    Effect m ins { m with registers := m.registers.overwrite (m.memory.load m.index ins.loads).1 }
  | clear (h : ins.op = .clear) : Effect m ins { m with display := .blank }
  /-- The flag is set unless a row is missing. -/
  | draw (h : ins.op = .draw) (registers : Bank UInt8)
    (hr : ∀ k, registers.read k ≠ m.registers.read k → k = flagRegister) :
    Effect m ins { m with
      registers
      display := (m.display.draw (m.registers.read ins.x).toNat (m.registers.read ins.y).toNat
        (m.memory.load m.index ins.rows).1).1 }

variable {m : Machine} {ins : Instruction}

/-! ## Every instruction -/

theorem effect_self (m : Machine) (ins : Instruction) : Effect m ins m := .goto m.pc

theorem effect_skipIf (c : Bool) : Effect m ins (m.skipIf c) := by
  cases c
  · exact .goto _
  · exact .goto _

theorem effect_skipIfKey (v : UInt8) (down : Bool) :
    Effect m ins (m.skipIfKey v down).machine := by
  unfold skipIfKey
  split
  · exact effect_skipIf _
  · exact effect_self m ins

theorem Pending.effect_call (h : Pending m) (hop : ins.op = .call) (target : Int) :
    Effect m ins (m.call target).machine := by
  have hp := h.two_le_pc
  have hp' := h.pc_le_size
  by_cases hs : m.sp < 16
  · obtain ⟨k, hk, hc⟩ := call_of_room h.sp_nonneg hs ⟨by omega, by omega⟩ target
    rw [hc]
    exact .call hop k hk _ _
  · rw [call_of_full (by omega)]
    exact effect_self m ins

theorem Pending.effect_ret (h : Pending m) (hop : ins.op = .ret) : Effect m ins m.ret.machine := by
  have h0 := h.sp_nonneg
  by_cases hs : m.sp = 0
  · rw [ret_of_empty hs]
    exact effect_self m ins
  · obtain ⟨k, -, hr⟩ := ret_of_pending (m := m) (by omega) h.sp_le
    rw [hr]
    exact .ret hop _

theorem effect_waitKey (hop : ins.op = .waitKey) : Effect m ins (m.waitKey ins.x) := by
  unfold waitKey
  split
  · exact .key hop _
  · exact .park hop _

/-- `_op_drw` writes the display, and the flag unless it fails. -/
theorem effect_drawSprite (hop : ins.op = .draw) :
    Effect m ins (m.drawSprite (m.registers.read ins.x) (m.registers.read ins.y)
      ins.n.toNat).machine := by
  have hrows : ins.rows = ins.n.toNat := by rw [Instruction.rows, hop]
  cases hs : Memory.stop m.index ins.n.toNat with
  | none =>
    rw [drawSprite_of_fits hs, ← hrows]
    exact .draw hop _ fun k hk => Bank.eq_of_read_write_ne hk
  | some a =>
    rw [drawSprite_of_stop hs, ← hrows]
    exact .draw hop m.registers fun k hk => absurd rfl hk

/-- There are no other effects. -/
theorem Pending.effect_execute (h : Pending m) (ins : Instruction) :
    Effect m ins (m.execute ins).machine := by
  obtain ⟨op, word, x, y, n, kk, nnn⟩ := ins
  cases op with
  | nop => exact effect_self m _
  | jump | jumpOffset => exact .goto _
  | skipEqByte | skipNeByte | skipEqReg | skipNeReg => exact effect_skipIf _
  | skipPressed | skipReleased => exact effect_skipIfKey _ _
  | call => exact h.effect_call rfl _
  | ret => exact h.effect_ret rfl
  | loadByte | addByte | loadReg | or | and | xor | loadDelay => exact .register rfl _
  | addReg | sub | shiftRight | subFrom | shiftLeft => exact .flag rfl _ _
  | random => exact .random rfl _ _
  | waitKey => exact effect_waitKey rfl
  | loadIndex | addIndex | loadGlyph => exact .index rfl _
  | setDelay => exact .delay rfl _
  | setSound => exact .sound rfl _
  | storeDecimal =>
    show Effect m _ (m.storeBytes (decimalDigits (m.registers.read x))).machine
    rw [storeBytes_eq]
    exact .store (.inl rfl)
  | storeRegs =>
    show Effect m _ (m.storeBytes (m.registers.toList.take (x + 1))).machine
    rw [storeBytes_eq]
    exact .store (.inr rfl)
  | loadRegs =>
    show Effect m _ (m.loadRegs x).machine
    rw [loadRegs_eq]
    exact .load rfl
  | clear => exact .clear rfl
  | draw => exact effect_drawSprite rfl

end Machine

end Chip8
