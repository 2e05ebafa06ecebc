import Chip8.Proofs.Bounds

/-!
# Dead state

Some of a machine's state is left over: stack slots above the stack pointer, the register that the
last key went to, the sound timer and the number of cycles. `Alike` compares everything else. A slot
comes into use only by being written, and the register for a key only when the machine parks, so
machines that are alike stay alike through every operation, which also fails on both or on neither,
and in the same way.
-/

namespace Chip8

namespace Machine

/-- The two machines agree but for what is left over. -/
structure Alike (m n : Machine) : Prop where
  memory : m.memory = n.memory
  display : m.display = n.display
  registers : m.registers = n.registers
  index : m.index = n.index
  pc : m.pc = n.pc
  sp : m.sp = n.sp
  /-- Slots in use. -/
  stack : ∀ k : Nibble, k.val < m.sp → m.stack.read k = n.stack.read k
  delay : m.delay = n.delay
  keypad : m.keypad = n.keypad
  waiting : m.waiting = n.waiting
  /-- It matters while there is a key to come. -/
  keyRegister : m.waiting = true → m.keyRegister = n.keyRegister
  crashed : m.crashed = n.crashed
  seed : m.seed = n.seed
  random : m.random = n.random

end Machine

/-- The two operations report the same and leave machines that are alike. -/
structure Outcome.Alike (o p : Outcome) : Prop where
  machine : o.machine.Alike p.machine
  error : o.error = p.error
  log : o.log = p.log

namespace Outcome.Alike

variable {m n : Machine}

theorem done (h : m.Alike n) : (done m).Alike (.done n) := ⟨h, rfl, rfl⟩

theorem fail (h : m.Alike n) (e : Error) : (fail m e).Alike (.fail n e) := ⟨h, rfl, rfl⟩

theorem transferred (h : m.Alike n) (stop : Option Int) :
    (m.transferred stop).Alike (n.transferred stop) := ⟨h, rfl, rfl⟩

theorem crash (h : m.Alike n) (f : Fault) (entry : Log.Entry) :
    (m.crash f entry).Alike (n.crash f entry) :=
  ⟨{ h with crashed := rfl }, rfl, rfl⟩

end Outcome.Alike

namespace Machine

variable {m n : Machine}

namespace Alike

theorem refl (m : Machine) : Alike m m := by
  constructor <;> intros <;> rfl

/-- The other machine is this one with something else in what is left over. -/
theorem exists_eq (h : Alike m n) :
    ∃ stack sound keyRegister cycles, n = { m with stack, sound, keyRegister, cycles } := by
  obtain ⟨h1, h2, h3, h4, h5, h6, -, h8, h9, h10, -, h12, h13, h14⟩ := h
  refine ⟨n.stack, n.sound, n.keyRegister, n.cycles, ?_⟩
  rw [h1, h2, h3, h4, h5, h6, h8, h9, h10, h12, h13, h14]

/-! ## Instructions -/

theorem setReg (h : Alike m n) (x : Nibble) (v : UInt8) : Alike (m.setReg x v) (n.setReg x v) :=
  { h with registers := by rw [Machine.setReg, Machine.setReg, h.registers] }

theorem setFlag (h : Alike m n) (on : Bool) : Alike (m.setFlag on) (n.setFlag on) := h.setReg _ _

theorem skipIf (h : Alike m n) (c : Bool) : Alike (m.skipIf c) (n.skipIf c) := by
  cases c with
  | false => exact h
  | true => exact { h with pc := congrArg (· + 2) h.pc }

theorem pressedKey? (h : Alike m n) : m.pressedKey? = n.pressedKey? := by
  rw [Machine.pressedKey?, Machine.pressedKey?, h.keypad]

/-- The call writes the slot that comes into use. -/
theorem call (h : Alike m n) (hm : Pending m) (hn : Pending n) (target : Int) :
    (m.call target).Alike (n.call target) := by
  have hsp := h.sp
  by_cases hs : m.sp < 16
  · have hp := hm.two_le_pc
    have hp' := hm.pc_le_size
    have hq := hn.two_le_pc
    have hq' := hn.pc_le_size
    obtain ⟨k, hk, hc⟩ := call_of_room hm.sp_nonneg hs ⟨by omega, by omega⟩ target
    obtain ⟨j, hj, hd⟩ := call_of_room hn.sp_nonneg (hsp ▸ hs) ⟨by omega, by omega⟩ target
    obtain rfl : j = k := Fin.ext (by omega)
    rw [hc, hd]
    refine .done { h with sp := congrArg (· + 1) hsp, pc := rfl, stack := fun i hi => ?_ }
    have hi' : (i.val : Int) < m.sp + 1 := hi
    show (m.stack.write j (.ofInt m.pc)).read i = (n.stack.write j (.ofInt n.pc)).read i
    rw [Bank.read_write, Bank.read_write, h.pc]
    split
    · rfl
    · next hne =>
      have hv : j.val ≠ i.val := fun e => hne (Fin.ext e)
      exact h.stack i (by omega)
  · rw [call_of_full (by omega), call_of_full (by omega), h.pc]
    exact .fail h _

/-- Both return to the same address: the slot that is read is in use on both. -/
theorem ret (h : Alike m n) (hm : Pending m) (hn : Pending n) : m.ret.Alike n.ret := by
  have hsp := h.sp
  have h0 := hm.sp_nonneg
  by_cases hs : m.sp = 0
  · rw [ret_of_empty hs, ret_of_empty (hsp ▸ hs), h.pc]
    exact .fail h _
  · obtain ⟨k, hk, hc⟩ := ret_of_pending (m := m) (by omega) hm.sp_le
    obtain ⟨j, hj, hd⟩ := ret_of_pending (m := n) (by omega) hn.sp_le
    obtain rfl : j = k := Fin.ext (by omega)
    rw [hc, hd]
    refine .done { h with sp := congrArg (· - 1) hsp, pc := ?_, stack := fun i hi => ?_ }
    · show ((m.stack.read j).toNat : Int) = (n.stack.read j).toNat
      rw [h.stack j (by omega)]
    · have hi' : (i.val : Int) < m.sp - 1 := hi
      exact h.stack i (by omega)

theorem skipIfKey (h : Alike m n) (v : UInt8) (down : Bool) :
    (m.skipIfKey v down).Alike (n.skipIfKey v down) := by
  by_cases hv : v.toNat < 16
  · rw [skipIfKey_of_lt hv, skipIfKey_of_lt hv, h.keypad]
    exact .done (h.skipIf _)
  · rw [skipIfKey_of_le (by omega), skipIfKey_of_le (by omega)]
    exact .fail h _

theorem waitKey (h : Alike m n) (x : Nibble) : Alike (m.waitKey x) (n.waitKey x) := by
  rw [Machine.waitKey, Machine.waitKey, ← h.pressedKey?]
  cases m.pressedKey? with
  | some key => exact h.setReg x _
  | none =>
    exact { h with waiting := rfl, keyRegister := fun _ => rfl, pc := congrArg (· - 2) h.pc }

/-- Contents that are the same on both. -/
theorem fill (h : Alike m n) (memory : Memory) (display : Bitmap) (registers : Bank UInt8)
    (random : Random.Generator) :
    Alike { m with memory, display, registers, random }
      { n with memory, display, registers, random } :=
  { h with memory := rfl, display := rfl, registers := rfl, random := rfl }

theorem storeBytes (h : Alike m n) (bs : List UInt8) :
    (m.storeBytes bs).Alike (n.storeBytes bs) := by
  obtain ⟨stack, sound, keyRegister, cycles, rfl⟩ := h.exists_eq
  rw [storeBytes_eq, storeBytes_eq]
  exact .transferred (h.fill _ _ _ _) _

theorem loadRegs (h : Alike m n) (x : Nibble) : (m.loadRegs x).Alike (n.loadRegs x) := by
  obtain ⟨stack, sound, keyRegister, cycles, rfl⟩ := h.exists_eq
  rw [loadRegs_eq, loadRegs_eq]
  exact .transferred (h.fill _ _ _ _) _

theorem drawSprite (h : Alike m n) (vx vy : UInt8) (rows : Nat) :
    (m.drawSprite vx vy rows).Alike (n.drawSprite vx vy rows) := by
  have hi := h.index
  obtain ⟨stack, sound, keyRegister, cycles, rfl⟩ := h.exists_eq
  cases hs : Memory.stop m.index rows with
  | none =>
    rw [drawSprite_of_fits hs, drawSprite_of_fits (hi ▸ hs)]
    exact .done ((h.fill _ _ _ _).setFlag _)
  | some a =>
    rw [drawSprite_of_stop hs, drawSprite_of_stop (hi ▸ hs)]
    exact .transferred (h.fill _ _ _ _) _

theorem execute (h : Alike m n) (hm : Pending m) (hn : Pending n) (ins : Instruction) :
    (m.execute ins).Alike (n.execute ins) := by
  obtain ⟨op, word, x, y, rows, kk, nnn⟩ := ins
  -- what an instruction reads of the other machine is then literally what it reads of this one
  obtain ⟨stack, sound, keyRegister, cycles, rfl⟩ := h.exists_eq
  cases op with
  | nop => exact .done h
  | ret => exact h.ret hm hn
  | call => exact h.call hm hn nnn
  | jump | jumpOffset => exact .done { h with pc := rfl }
  | skipEqByte | skipNeByte | skipEqReg | skipNeReg => exact .done (h.skipIf _)
  | skipPressed | skipReleased => exact h.skipIfKey _ _
  | loadByte | addByte | loadReg | or | and | xor | loadDelay => exact .done (h.setReg x _)
  | addReg | sub | shiftRight | subFrom | shiftLeft => exact .done ((h.setReg x _).setFlag _)
  | loadIndex | addIndex | loadGlyph => exact .done { h with index := rfl }
  | random => exact .done ((h.fill _ _ _ _).setReg x _)
  | waitKey => exact .done (h.waitKey x)
  | setDelay => exact .done { h with delay := rfl }
  | setSound => exact .done { h with }
  | clear => exact .done (h.fill _ _ _ _)
  | storeDecimal => exact h.storeBytes (decimalDigits (m.registers.read x))
  | storeRegs => exact h.storeBytes (m.registers.toList.take (x + 1))
  | loadRegs => exact h.loadRegs x
  | draw => exact h.drawSprite _ _ _

/-! ## Operations -/

/-- Only a parked machine uses the register that the key goes to, and it is the same on both. -/
theorem poll (h : Alike m n) (hw : m.waiting = true) : Alike m.poll n.poll := by
  rw [Machine.poll, Machine.poll, ← h.pressedKey?]
  cases m.pressedKey? with
  | none => exact h
  | some key =>
    rw [← h.keyRegister hw]
    exact { h.setReg m.keyRegister (.ofNat key) with
      waiting := rfl
      keyRegister := fun hf => nomatch hf
      pc := congrArg (· + 2) h.pc }

theorem fetched (h : Alike m n) : Alike m.fetched n.fetched :=
  { h with pc := congrArg (· + 2) h.pc }

theorem meets (h : Alike m n) {op : Op} {w : Nat} (hm : m.Meets op w) : n.Meets op w := by
  rw [Meets, ← h.memory, ← h.pc]
  exact hm

theorem ready (h : Alike m n) (hm : m.Ready) : n.Ready :=
  ⟨h.crashed ▸ hm.not_crashed, h.waiting ▸ hm.not_waiting⟩

theorem step (h : Alike m n) (hm : Bounded m) (hn : Bounded n) : m.step.Alike n.step := by
  cases hc : m.crashed with
  | true =>
    rw [step_of_crashed hc, step_of_crashed (h.crashed ▸ hc), h.pc]
    exact .fail h _
  | false =>
  cases hw : m.waiting with
  | true =>
    rw [step_of_waiting hc hw, step_of_waiting (h.crashed ▸ hc) (h.waiting ▸ hw)]
    exact .done (h.poll hw)
  | false =>
  have hr : m.Ready := ⟨hc, hw⟩
  have hr' : n.Ready := h.ready hr
  have hword : n.memory.word? n.pc = m.memory.word? m.pc := by rw [h.memory, h.pc]
  rcases m.fetch_cases with hno | ⟨w, hw', hu⟩ | ⟨op, w, hmeets⟩
  · rw [hr.step_of_no_word hno, hr'.step_of_no_word (hword.trans hno), h.pc]
    exact .crash h _ _
  · rw [hr.step_of_unknown hw' hu, hr'.step_of_unknown (hword.trans hw') hu, h.pc]
    exact .crash h.fetched _ _
  · have hmeets' := h.meets hmeets
    have ha : (m.attempt op w).Alike (n.attempt op w) :=
      h.fetched.execute (hm.fetched hr hmeets.1) (hn.fetched hr' hmeets'.1) _
    rw [hr.step_of_meets hmeets, hr'.step_of_meets hmeets', ← ha.error, h.pc]
    split
    · exact .done { ha.machine with }
    · exact .crash ha.machine _ _
    · exact .fail ha.machine _

theorem tick (h : Alike m n) : Alike m.tick n.tick :=
  { h with delay := congrArg countdown h.delay }

theorem steps (h : Alike m n) (hm : Bounded m) (hn : Bounded n) (frame left gone : Nat) :
    (steps frame left gone m).Alike (steps frame left gone n) := by
  induction left generalizing gone m n with
  | zero => exact .done h
  | succ left ih =>
    have hs := h.step hm hn
    have hb := hm.step.bounded
    have hb' := hn.step.bounded
    rw [Machine.steps, Machine.steps, ← hs.error]
    cases m.step.error with
    | some e => exact hs
    | none =>
      dsimp only
      split
      · exact ih hs.machine.tick hb.tick hb'.tick _
      · exact ih hs.machine hb hb' _

theorem run (h : Alike m n) (hm : Bounded m) (hn : Bounded n) (cycles frame : Int) :
    (m.run cycles frame).Alike (n.run cycles frame) := by
  unfold Machine.run
  split
  · exact .fail h _
  · exact h.steps hm hn _ _ _

theorem load (h : Alike m n) (p : Program) : (m.load p).Alike (n.load p) := by
  unfold Machine.load
  rw [← h.memory]
  split
  · exact .fail h _
  · split
    · exact .fail h _
    · exact ⟨{ h with memory := rfl }, rfl, rfl⟩

theorem setKey (h : Alike m n) (key : Int) (down : Bool) :
    (m.setKey key down).Alike (n.setKey key down) := by
  unfold Machine.setKey
  rw [← h.keypad]
  split
  · exact .done { h with keypad := rfl }
  · exact .fail h _

theorem apply (h : Alike m n) (hm : Bounded m) (hn : Bounded n) {c : Call}
    (hc : c.isPublic = true) : (m.apply c).Alike (n.apply c) := by
  cases c with
  | load p => exact h.load p
  | step => exact h.step hm hn
  | tick => exact .done h.tick
  | setKey key down => exact h.setKey key down
  | run cycles frame => exact h.run hm hn cycles frame
  | reset =>
    rw [Machine.apply, Machine.apply, reset_eq, reset_eq, ← h.seed]
    exact ⟨refl _, rfl, rfl⟩
  | execute ins => cases hc

theorem applyAll (h : Alike m n) (hm : Reachable m) (hn : Reachable n) {cs : List Call}
    (hcs : ∀ c ∈ cs, c.isPublic = true) : Alike (m.applyAll cs) (n.applyAll cs) := by
  induction cs generalizing m n with
  | nil => exact h
  | cons c cs ih =>
    have hc := hcs c List.mem_cons_self
    exact ih (h.apply hm.bounded hn.bounded hc).machine (hm.apply hc) (hn.apply hc)
      fun d hd => hcs d (List.mem_cons_of_mem c hd)

end Alike

/-- What is left over does not leak: on machines that came about and agree on all else, any sequence
of operations goes the same way, operation by operation. Each succeeds on both or fails on both with
the same error, logs the same, and leaves machines that are alike again. -/
theorem dead_state_does_not_leak (hm : Reachable m) (hn : Reachable n) (h : Alike m n)
    {before : List Call} (hbefore : ∀ c ∈ before, c.isPublic = true) {next : Call}
    (hnext : next.isPublic = true) :
    let o := (m.applyAll before).apply next
    let p := (n.applyAll before).apply next
    o.error = p.error ∧ o.log = p.log ∧ Alike o.machine p.machine := by
  intro o p
  have hall := (h.applyAll hm hn hbefore).apply (hm.applyAll before hbefore).bounded
    (hn.applyAll before hbefore).bounded hnext
  exact ⟨hall.error, hall.log, hall.machine⟩

/-- A loop that makes a sound, gone through once or not yet; then a return from nowhere takes its
place. -/
theorem dead_state_does_not_leak_loop :
    let n := (fresh 7).applyAll [.load (.bytes [0x60, 5, 0xF0, 0x18, 0x12, 0x02]), .step]
    let m := n.applyAll [.step, .step]
    let before : List Call := [.load (.bytes [0x60, 5, 0x00, 0xEE])]
    (Reachable m ∧ Reachable n ∧ Alike m n) ∧ (m.sound ≠ n.sound ∧ m.cycles ≠ n.cycles) ∧
      ((m.applyAll before).apply (.run 9 2)).error = some (.fault (.stackUnderflow 0x202)) := by
  intro n m before
  have hn : Reachable n := (reachable_fresh 7).applyAll _ (by decide)
  obtain ⟨hc, hw, hp, hs, hv, h1, h2, he⟩ : n.crashed = false ∧ n.waiting = false ∧
      n.pc = 0x202 ∧ n.sound = 0 ∧ n.registers.read 0 = 5 ∧
      n.memory.word? 0x202 = some 0xF018 ∧ n.memory.word? 0x204 = some 0x1202 ∧
      ((n.applyAll before).apply (.run 9 2)).error =
        some (.fault (.stackUnderflow 0x202)) := by decide +kernel
  clear_value n
  have hm : Reachable m := hn.applyAll _ (by decide)
  have hfirst : n.step.machine = { n with pc := 0x204, sound := 5, cycles := n.cycles + 1 } := by
    have hr : n.Ready := ⟨hc, hw⟩
    have hmeets : n.Meets .setSound 0xF018 := ⟨hp ▸ h1, by decide⟩
    rw [hr.step_of_done hmeets rfl]
    show { n with
      pc := n.pc + 2, sound := ((n.registers.read 0).toNat : Int), cycles := n.cycles + 1 } = _
    rw [hp, hv]
    rfl
  have hsecond : m = { n with sound := 5, cycles := n.cycles + 2 } := by
    show n.step.machine.step.machine = _
    rw [hfirst]
    have hr : Ready { n with pc := 0x204, sound := 5, cycles := n.cycles + 1 } := ⟨hc, hw⟩
    have hmeets : Meets { n with pc := 0x204, sound := 5, cycles := n.cycles + 1 } .jump 0x1202 :=
      ⟨h2, by decide⟩
    rw [hr.step_of_done hmeets rfl]
    show { n with pc := 0x202, sound := 5, cycles := n.cycles + 1 + 1 } = _
    rw [← hp]
  have h : Alike m n := by
    rw [hsecond]
    exact { Alike.refl n with }
  refine ⟨⟨hm, hn, h⟩, ?_, ?_⟩
  · rw [hsecond]
    exact ⟨by simp [hs], by simp⟩
  · have hall := @dead_state_does_not_leak m n hm hn h before (by decide) (.run 9 2) rfl
    exact hall.1.trans he

end Machine

end Chip8
