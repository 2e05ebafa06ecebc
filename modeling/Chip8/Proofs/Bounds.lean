import Chip8.Proofs.Execution
import Chip8.Proofs.Reachable
import Chip8.Proofs.Stepping

/-!
# The bounds of a machine

Program counter, index register, stack pointer and timers are integers, and nothing in an operation
cuts them off. They stay within bounds all the same, because every instruction that moves the
program counter starts from a word that could be fetched, and return addresses come from there.
-/

namespace Chip8

namespace Machine

structure Bounded (m : Machine) : Prop where
  pc_nonneg : 0 ≤ m.pc
  pc_le : m.pc ≤ 0x10FE
  index_nonneg : 0 ≤ m.index
  index_le : m.index ≤ 0xFFFF
  sp_nonneg : 0 ≤ m.sp
  sp_le : m.sp ≤ 16
  delay_nonneg : 0 ≤ m.delay
  delay_le : m.delay ≤ 0xFF
  sound_nonneg : 0 ≤ m.sound
  sound_le : m.sound ≤ 0xFF
  /-- A slot in use holds an address behind a word. -/
  stack_bounds : ∀ k : Nibble, k.val < m.sp →
    2 ≤ (m.stack.read k).toNat ∧ (m.stack.read k).toNat ≤ 4096
  not_both : ¬ (m.waiting = true ∧ m.crashed = true)
  /-- A machine that waits still stands on the word that made it wait. -/
  pc_le_of_waiting : m.waiting = true → m.pc ≤ 4094

/-- Bounded, and about to execute the word before the program counter. -/
structure Pending (m : Machine) : Prop extends Bounded m, Ready m where
  two_le_pc : 2 ≤ m.pc
  pc_le_size : m.pc ≤ 4096

/-- What an instruction may leave: it does not crash the machine itself, and when it fails, it fails
by a fault and leaves no machine that waits. -/
structure Settled (o : Outcome) : Prop where
  bounded : Bounded o.machine
  not_crashed : o.machine.crashed = false
  fault : ∀ e, o.error = some e → o.machine.waiting = false ∧ ∃ f, e = .fault f

variable {m : Machine}

theorem Bounded.not_crashed (h : Bounded m) (hw : m.waiting = true) : m.crashed = false :=
  Bool.eq_false_iff.2 fun hc => h.not_both ⟨hw, hc⟩

theorem Settled.done (h : Bounded m) (hc : m.crashed = false) : Settled (.done m) :=
  ⟨h, hc, fun _ he => nomatch he⟩

namespace Pending

theorem done (h : Pending m) : Settled (.done m) := .done h.toBounded h.not_crashed

theorem fail (h : Pending m) (f : Fault) : Settled (.fail m (.fault f)) :=
  ⟨h.toBounded, h.not_crashed, fun _ he => ⟨h.not_waiting, f, (Option.some.inj he).symm⟩⟩

theorem transferred (h : Pending m) (stop : Option Int) : Settled (m.transferred stop) := by
  refine ⟨h.toBounded, h.not_crashed, fun e he => ⟨h.not_waiting, ?_⟩⟩
  obtain ⟨a, -, rfl⟩ := Option.map_eq_some_iff.1 he
  exact ⟨_, rfl⟩

theorem setReg (h : Pending m) (x : Nibble) (v : UInt8) : Pending (m.setReg x v) := { h with }

theorem setFlag (h : Pending m) (on : Bool) : Pending (m.setFlag on) := h.setReg _ _

theorem skipIf (h : Pending m) (c : Bool) : Settled (.done (m.skipIf c)) := by
  have hp := h.two_le_pc
  have hp' := h.pc_le_size
  cases c with
  | false => exact h.done
  | true =>
    refine .done { h with pc_nonneg := ?_, pc_le := ?_, pc_le_of_waiting := ?_ } h.not_crashed
    · show 0 ≤ m.pc + 2
      omega
    · show m.pc + 2 ≤ 0x10FE
      omega
    · intro hw
      exact absurd hw h.waiting_ne_true

/-- Contents are not bounded. -/
theorem fill (h : Pending m) (memory : Memory) (display : Bitmap) (registers : Bank UInt8)
    (random : Random.Generator) : Pending { m with memory, display, registers, random } :=
  { h with }

/-- A program counter that an instruction may set is within the bounds. -/
theorem goto (h : Pending m) (target : Int) (h0 : 0 ≤ target) (h1 : target ≤ 0x10FE) :
    Bounded { m with pc := target } :=
  { h with
    pc_nonneg := h0
    pc_le := h1
    pc_le_of_waiting := fun hw => absurd hw h.waiting_ne_true }

theorem reindex (h : Pending m) {i : Int} (h0 : 0 ≤ i) (h1 : i ≤ 0xFFFF) :
    Pending { m with index := i } :=
  { h with index_nonneg := h0, index_le := h1 }

/-- `_op_call` fills the slot of a stack that has room, or fails as the stack is full. -/
theorem call (h : Pending m) (target : Int) (h0 : 0 ≤ target) (h1 : target ≤ 0x10FE) :
    Settled (m.call target) := by
  have hp := h.two_le_pc
  have hp' := h.pc_le_size
  by_cases hs : m.sp < 16
  · obtain ⟨k, hk, hc⟩ := call_of_room h.sp_nonneg hs ⟨by omega, by omega⟩ target
    rw [hc]
    have hsp : 0 ≤ m.sp + 1 ∧ m.sp + 1 ≤ 16 := by omega
    refine .done { h.goto target h0 h1 with
      sp_nonneg := hsp.1, sp_le := hsp.2, stack_bounds := fun j hj => ?_ } h.not_crashed
    -- the slot that is filled here, or one that was in use before
    have hj' : (j.val : Int) < m.sp + 1 := hj
    show 2 ≤ ((m.stack.write k (.ofInt m.pc)).read j).toNat ∧
      ((m.stack.write k (.ofInt m.pc)).read j).toNat ≤ 4096
    rw [Bank.read_write]
    split
    · have ha := toNat_ofInt_of_lt (a := m.pc) (by omega) (by omega)
      omega
    · next hne =>
      have hv : k.val ≠ j.val := fun e => hne (Fin.ext e)
      exact h.stack_bounds j (by omega)
  · rw [call_of_full (by omega)]
    exact h.fail _

/-- `_op_ret` frees the last slot, or fails as the stack is empty. -/
theorem ret (h : Pending m) : Settled m.ret := by
  by_cases hs : m.sp = 0
  · rw [ret_of_empty hs]
    exact h.fail _
  · have h0 := h.sp_nonneg
    have h1 := h.sp_le
    obtain ⟨k, hk, hr⟩ := ret_of_pending (m := m) (by omega) h1
    rw [hr]
    have ha := h.stack_bounds k (by omega)
    have hsp : 0 ≤ m.sp - 1 ∧ m.sp - 1 ≤ 16 := by omega
    refine .done { h.goto (m.stack.read k).toNat (by omega) (by omega) with
      sp_nonneg := hsp.1, sp_le := hsp.2, stack_bounds := fun j hj => ?_ } h.not_crashed
    have hj' : (j.val : Int) < m.sp - 1 := hj
    exact h.stack_bounds j (by omega)

theorem skipIfKey (h : Pending m) (v : UInt8) (down : Bool) : Settled (m.skipIfKey v down) := by
  by_cases hv : v.toNat < 16
  · rw [skipIfKey_of_lt hv]
    exact h.skipIf _
  · rw [skipIfKey_of_le (by omega)]
    exact h.fail _

/-- `_op_ld_vx_k` parks on the instruction that has just been fetched. -/
theorem waitKey (h : Pending m) (x : Nibble) : Settled (.done (m.waitKey x)) := by
  unfold Machine.waitKey
  split
  · exact (h.setReg _ _).done
  · have hp := h.two_le_pc
    have hp' := h.pc_le_size
    have hpc : 0 ≤ m.pc - 2 ∧ m.pc - 2 ≤ 0x10FE ∧ m.pc - 2 ≤ 4094 := by omega
    refine .done { h with
      pc_nonneg := hpc.1, pc_le := hpc.2.1, pc_le_of_waiting := fun _ => hpc.2.2
      not_both := fun hb => ?_ } h.not_crashed
    exact absurd hb.2 h.crashed_ne_true

theorem storeBytes (h : Pending m) (bs : List UInt8) : Settled (m.storeBytes bs) := by
  rw [storeBytes_eq]
  exact (h.fill _ _ _ _).transferred _

theorem loadRegs (h : Pending m) (x : Nibble) : Settled (m.loadRegs x) := by
  rw [loadRegs_eq]
  exact (h.fill _ _ _ _).transferred _

theorem drawSprite (h : Pending m) (vx vy : UInt8) (n : Nat) : Settled (m.drawSprite vx vy n) := by
  cases hs : Memory.stop m.index n with
  | none =>
    rw [drawSprite_of_fits hs]
    exact ((h.fill _ _ _ _).setFlag _).done
  | some a =>
    rw [drawSprite_of_stop hs]
    exact (h.fill _ _ _ _).transferred _

theorem execute (h : Pending m) {ins : Instruction} (h0 : 0 ≤ ins.nnn) (h1 : ins.nnn < 0x1000) :
    Settled (m.execute ins) := by
  obtain ⟨op, word, x, y, n, kk, nnn⟩ := ins
  have hx : ((m.registers.read x).toNat : Int) ≤ 0xFF := by
    have := (m.registers.read x).toNat_lt
    omega
  have hv := (m.registers.read 0).toNat_lt
  replace h0 : 0 ≤ nnn := h0
  replace h1 : nnn < 0x1000 := h1
  cases op with
  | nop => exact h.done
  | clear => exact (h.fill _ _ _ _).done
  | ret => exact h.ret
  | jump => exact .done (h.goto nnn h0 (by omega)) h.not_crashed
  | jumpOffset =>
    exact .done (h.goto (nnn + (m.registers.read 0).toNat) (by omega) (by omega))
      h.not_crashed
  | call => exact h.call nnn h0 (by omega)
  | skipEqByte | skipNeByte | skipEqReg | skipNeReg => exact h.skipIf _
  | skipPressed | skipReleased => exact h.skipIfKey _ _
  | loadByte | addByte | loadReg | or | and | xor | loadDelay => exact (h.setReg _ _).done
  | addReg | sub | shiftRight | subFrom | shiftLeft => exact ((h.setReg _ _).setFlag _).done
  | loadIndex => exact (h.reindex (i := nnn) h0 (by omega)).done
  | addIndex => exact (h.reindex (by omega) (by omega)).done
  | loadGlyph =>
    have hg : 0 ≤ Font.start + Font.glyphSize * ((m.registers.read x).toNat : Int) ∧
        Font.start + Font.glyphSize * ((m.registers.read x).toNat : Int) ≤ 0xFFFF := by
      simp only [Font.start, Font.glyphSize]
      omega
    exact (h.reindex hg.1 hg.2).done
  | random => exact ((h.fill _ _ _ _).setReg x _).done
  | draw => exact h.drawSprite _ _ _
  | waitKey => exact h.waitKey x
  | setDelay => exact done { h with delay_nonneg := Int.natCast_nonneg _, delay_le := hx }
  | setSound => exact done { h with sound_nonneg := Int.natCast_nonneg _, sound_le := hx }
  | storeDecimal => exact h.storeBytes (decimalDigits (m.registers.read x))
  | storeRegs => exact h.storeBytes (m.registers.toList.take (x + 1))
  | loadRegs => exact h.loadRegs x

end Pending

/-! ## Steps -/

/-- What an operation leaves: it fails by a fault if at all, and exactly if the machine stands
crashed afterwards. -/
structure Closed (o : Outcome) : Prop where
  bounded : Bounded o.machine
  fault : ∀ e, o.error = some e → ∃ f, e = .fault f
  error_iff : o.error ≠ none ↔ o.machine.crashed = true

theorem Closed.not_crashed {o : Outcome} (h : Closed o) (he : o.error = none) :
    o.machine.crashed = false :=
  Bool.eq_false_iff.2 fun hc => h.error_iff.2 hc he

theorem Bounded.crash (h : Bounded m) (hw : m.waiting = false) (f : Fault) (entry : Log.Entry) :
    Closed (m.crash f entry) where
  bounded := { h with
    not_both := fun hb => Bool.eq_false_iff.1 hw hb.1 }
  fault := fun _ he => ⟨f, (Option.some.inj he).symm⟩
  error_iff := ⟨fun _ => rfl, fun _ => Option.some_ne_none _⟩

theorem Closed.done (h : Bounded m) (hc : m.crashed = false) : Closed (.done m) where
  bounded := h
  fault := fun _ he => nomatch he
  error_iff := ⟨fun hn => absurd rfl hn, fun ht => absurd ht (Bool.eq_false_iff.1 hc)⟩

theorem Bounded.fetched (h : Bounded m) (hr : m.Ready) {w : Nat}
    (hw : m.memory.word? m.pc = some w) : Pending m.fetched := by
  have hp := Memory.bounds_of_word? hw
  have hf : 0 ≤ m.pc + 2 ∧ m.pc + 2 ≤ 0x10FE ∧ 2 ≤ m.pc + 2 ∧ m.pc + 2 ≤ 4096 := by omega
  exact { h, hr with
    pc_nonneg := hf.1, pc_le := hf.2.1, two_le_pc := hf.2.2.1, pc_le_size := hf.2.2.2
    pc_le_of_waiting := fun hw => absurd hw hr.waiting_ne_true }

theorem Bounded.attempt (h : Bounded m) (hr : m.Ready) {op : Op} {w : Nat} (hm : m.Meets op w) :
    Settled (m.attempt op w) :=
  (h.fetched hr hm.1).execute (Instruction.nnn_ofWord_nonneg op w) (Instruction.nnn_ofWord_lt op w)

theorem Bounded.poll (h : Bounded m) (hc : m.crashed = false) (hw : m.waiting = true) :
    Closed (.done m.poll) := by
  unfold Machine.poll
  split
  · exact .done h hc
  · have h0 := h.pc_nonneg
    have h1 := h.pc_le_of_waiting hw
    have hp : 0 ≤ m.pc + 2 ∧ m.pc + 2 ≤ 0x10FE := by omega
    exact .done { h with
      pc_nonneg := hp.1, pc_le := hp.2
      not_both := fun hb => absurd hb.1 Bool.false_ne_true
      pc_le_of_waiting := fun hb => absurd hb Bool.false_ne_true } hc

/-- `step` keeps the bounds. -/
theorem Bounded.step (h : Bounded m) : Closed m.step := by
  cases hc : m.crashed with
  | true =>
    rw [step_of_crashed hc]
    exact ⟨h, fun _ he => ⟨_, (Option.some.inj he).symm⟩,
      ⟨fun _ => hc, fun _ => Option.some_ne_none _⟩⟩
  | false =>
  cases hw : m.waiting with
  | true =>
    rw [step_of_waiting hc hw]
    exact h.poll hc hw
  | false =>
  have hr : m.Ready := ⟨hc, hw⟩
  rcases m.fetch_cases with hn | ⟨w, hw', hu⟩ | ⟨op, w, hm⟩
  · rw [hr.step_of_no_word hn]
    exact h.crash hw _ _
  · rw [hr.step_of_unknown hw' hu]
    exact (h.fetched hr hw').crash hw _ _
  · have hs := h.attempt hr hm
    cases he : (m.attempt op w).error with
    | none =>
      rw [hr.step_of_done hm he]
      exact .done { hs.bounded with } hs.not_crashed
    | some e =>
      obtain ⟨hnw, f, rfl⟩ := hs.fault e he
      rw [hr.step_of_fault hm he]
      exact hs.bounded.crash hnw _ _

/-! ## Runs -/

theorem bounded_fresh (seed : Nat) : Bounded (fresh seed) := by
  constructor
  case stack_bounds =>
    intro k hk
    have hk' : (k.val : Int) < 0 := hk
    omega
  all_goals simp [fresh]

theorem Bounded.load (h : Bounded m) (p : Program) : Bounded (m.load p).machine := by
  obtain ⟨memory, hm⟩ := m.machine_load p
  rw [hm]
  exact { h with }

theorem countdown_bounds {timer : Int} (h0 : 0 ≤ timer) (h1 : timer ≤ 0xFF) :
    0 ≤ countdown timer ∧ countdown timer ≤ 0xFF := by
  unfold countdown
  split <;> omega

theorem Bounded.tick (h : Bounded m) : Bounded m.tick :=
  have hd := countdown_bounds h.delay_nonneg h.delay_le
  have hs := countdown_bounds h.sound_nonneg h.sound_le
  { h with delay_nonneg := hd.1, delay_le := hd.2, sound_nonneg := hs.1, sound_le := hs.2 }

theorem Bounded.setKey (h : Bounded m) (key : Int) (down : Bool) :
    Bounded (m.setKey key down).machine := by
  obtain ⟨keypad, hm⟩ := m.machine_setKey key down
  rw [hm]
  exact { h with }

theorem Reachable.bounded (h : Reachable m) : Bounded m :=
  Reachable.induction (fun _ hb => hb.step.bounded) (fun _ hb => hb.tick) bounded_fresh
    (fun _ p hb => hb.load p) (fun _ key down hb => hb.setKey key down) h

/-- Every machine that comes about is bounded, whatever operations made it. Hence a call always has
a return address that fits its slot, a step fails by a fault or not at all, and it fails exactly if
it leaves a crashed machine. -/
theorem bounded_of_reachable (h : Reachable m) :
    Bounded m ∧ m.keyRegister.val ≤ 0xF ∧ (∀ k, (m.registers.read k).toNat ≤ 0xFF) ∧
      (∀ a b, m.memory.read? a = some b → b.toNat ≤ 0xFF) ∧
      (∀ w, m.Meets .call w → 0 ≤ m.fetched.pc ∧ m.fetched.pc ≤ 0xFFFF) ∧
      (∀ e, m.step.error = some e → ∃ f, e = .fault f) ∧
      (m.step.error ≠ none ↔ m.step.machine.crashed = true) := by
  have hb := h.bounded
  refine ⟨hb, by omega, fun k => ?_, fun a b _ => ?_, fun w hm => ?_, hb.step.fault,
    hb.step.error_iff⟩
  · have := (m.registers.read k).toNat_lt
    omega
  · have := b.toNat_lt
    omega
  · have := hm.pc_bounds
    simp only [fetched]
    omega

/-- A routine that calls itself until the stack is full. -/
theorem bounded_of_reachable_full :
    let m := (fresh 7).applyAll [.load (.bytes [0x22, 0x00]), .run 16 3]
    (Reachable m ∧ m.sp = 16) ∧ Bounded m ∧
      (m.step.error ≠ none ↔ m.step.machine.crashed = true) := by
  intro m
  have hm : Reachable m := (reachable_fresh 7).applyAll _ (by decide)
  have h := bounded_of_reachable hm
  exact ⟨⟨hm, by decide +kernel⟩, h.1, h.2.2.2.2.2.2⟩

end Machine

end Chip8
