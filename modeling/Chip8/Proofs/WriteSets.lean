import Chip8.Proofs.Effects

/-!
# Write sets

What a step may write, part by part: a cell, a pixel, a stack slot or a register changes only under
the instructions that name it, at the places that they name, whether the step succeeds or fails.
-/

namespace Chip8

open Machine (flagRegister)

/-- The operation may write the register `k` when its word names the register `x`. -/
def Op.Writes (op : Op) (x k : Nibble) : Prop :=
  match op with
  | loadByte | addByte | loadReg | or | and | xor | random | loadDelay | waitKey => k = x
  | addReg | sub | shiftRight | subFrom | shiftLeft => k = x ∨ k = flagRegister
  | draw => k = flagRegister
  | loadRegs => k ≤ x
  | _ => False

theorem Op.eq_of_setsIndex {op : Op} (h : op.setsIndex = true) :
    op = .loadIndex ∨ op = .addIndex ∨ op = .loadGlyph := by
  cases op <;> simp [setsIndex] at h ⊢

theorem Op.writes_of_setsRegister {op : Op} (h : op.setsRegister = true) (x : Nibble) :
    op.Writes x x := by
  cases op <;> first | rfl | cases h

theorem Op.writes_of_setsFlag {op : Op} (h : op.setsFlag = true) {x k : Nibble}
    (hk : k = x ∨ k = flagRegister) : op.Writes x k := by
  cases op <;> first | exact hk | cases h

namespace Machine

variable {m m' : Machine} {ins : Instruction}

/-! ## Instructions -/

theorem length_stores_of_storeDecimal (h : ins.op = .storeDecimal) :
    (m.stores ins).length = 3 := by
  simp [stores, h, decimalDigits]

theorem length_stores_of_storeRegs (h : ins.op = .storeRegs) :
    (m.stores ins).length = ins.x + 1 := by
  have hx := ins.x.isLt
  simp only [stores, h, List.length_take, Vector.length_toList]
  omega

namespace Effect

/-- Memory is written where one of the two stores reaches, and nowhere else. -/
theorem memory_ne (e : Effect m ins m') (hi : 0 ≤ m.index) {a : Int}
    (h : m'.memory.read? a ≠ m.memory.read? a) :
    (ins.op = .storeDecimal ∧ m.index ≤ a ∧ a ≤ m.index + 2) ∨
      (ins.op = .storeRegs ∧ m.index ≤ a ∧ a ≤ m.index + ins.x) := by
  cases e with
  | store hop =>
    have hin : ∃ i < (m.stores ins).length, a = m.index + (i : Nat) := by
      apply Decidable.byContradiction
      intro hn
      refine h ((Memory.overlaid_store m.memory hi (m.stores ins)).2 a fun i hl ha => ?_)
      exact hn ⟨i, hl, ha⟩
    obtain ⟨i, hl, rfl⟩ := hin
    rcases hop with hop | hop
    · rw [length_stores_of_storeDecimal hop] at hl
      exact .inl ⟨hop, by omega, by omega⟩
    · rw [length_stores_of_storeRegs hop] at hl
      exact .inr ⟨hop, by omega, by omega⟩
  | _ => exact absurd rfl h

/-- A pixel changes if the display is cleared or a bit is drawn on it. -/
theorem display_ne (e : Effect m ins m') (hi : 0 ≤ m.index) (hn : ins.rows < 0x10)
    {col : Fin Bitmap.width} {row : Fin Bitmap.height}
    (h : m'.display.get col row ≠ m.display.get col row) :
    ins.op = .clear ∨ (ins.op = .draw ∧ ∃ c r, c < 8 ∧ r < ins.rows ∧
      ((m.registers.read ins.x).toNat + c) % 64 = col.val ∧
      ((m.registers.read ins.y).toNat + r) % 32 = row.val) := by
  cases e with
  | clear hop => exact .inl hop
  | draw hop =>
    obtain ⟨r, c, -, hr, -, -, hc, -, hx, hy⟩ := (redrawn_draw hi (by omega) _ _ col row).1 h
    exact .inr ⟨hop, c, r, hc, hr, hx, hy⟩
  | _ => exact absurd rfl h

theorem registers_ne (e : Effect m ins m') (hi : 0 ≤ m.index) {k : Nibble}
    (h : m'.registers.read k ≠ m.registers.read k) : ins.op.Writes ins.x k := by
  cases e with
  | register hop =>
    rw [Bank.eq_of_read_write_ne h]
    exact Op.writes_of_setsRegister hop ins.x
  | flag hop v on =>
    refine Op.writes_of_setsFlag hop ?_
    by_cases hf : ((m.setReg ins.x v).setFlag on).registers.read k =
        (m.setReg ins.x v).registers.read k
    · rw [hf] at h
      exact .inl (Bank.eq_of_read_write_ne h)
    · exact .inr (Bank.eq_of_read_write_ne hf)
  | random hop =>
    rw [hop]
    exact Bank.eq_of_read_write_ne h
  | key hop =>
    rw [hop]
    exact Bank.eq_of_read_write_ne h
  | load hop =>
    have hl : ins.loads = ins.x + 1 := by rw [Instruction.loads, hop]
    have hr := reloaded_load hi ins.loads k
    split at hr
    · next hk =>
      rw [hop]
      exact Fin.le_def.2 (by omega)
    · exact absurd hr h
  | draw hop registers hr =>
    rw [hop]
    exact hr k h
  | _ => exact absurd rfl h

theorem stack_ne (e : Effect m ins m') {k : Nibble} (h : m'.stack.read k ≠ m.stack.read k) :
    ins.op = .call ∧ m.sp = k.val := by
  cases e with
  | call hop j hj =>
    rw [Bank.eq_of_read_write_ne h]
    exact ⟨hop, hj⟩
  | _ => exact absurd rfl h

theorem sp_ne (e : Effect m ins m') (h : m'.sp ≠ m.sp) :
    (ins.op = .call ∧ m'.sp = m.sp + 1) ∨ (ins.op = .ret ∧ m'.sp = m.sp - 1) := by
  cases e with
  | call hop => exact .inl ⟨hop, rfl⟩
  | ret hop => exact .inr ⟨hop, rfl⟩
  | _ => exact absurd rfl h

theorem index_ne (e : Effect m ins m') (h : m'.index ≠ m.index) : ins.op.setsIndex = true := by
  cases e with
  | index hop => exact hop
  | _ => exact absurd rfl h

theorem delay_ne (e : Effect m ins m') (h : m'.delay ≠ m.delay) : ins.op = .setDelay := by
  cases e with
  | delay hop => exact hop
  | _ => exact absurd rfl h

theorem sound_ne (e : Effect m ins m') (h : m'.sound ≠ m.sound) : ins.op = .setSound := by
  cases e with
  | sound hop => exact hop
  | _ => exact absurd rfl h

theorem random_ne (e : Effect m ins m') (h : m'.random ≠ m.random) : ins.op = .random := by
  cases e with
  | random hop => exact hop
  | _ => exact absurd rfl h

theorem wait_ne (e : Effect m ins m')
    (h : m'.waiting ≠ m.waiting ∨ m'.keyRegister ≠ m.keyRegister) : ins.op = .waitKey := by
  cases e with
  | park hop => exact hop
  | _ => rcases h with h | h <;> exact absurd rfl h

theorem keypad_eq (e : Effect m ins m') : m'.keypad = m.keypad := by cases e <;> rfl

theorem cycles_eq (e : Effect m ins m') : m'.cycles = m.cycles := by cases e <;> rfl

end Effect

/-! ## Steps -/

/-- `m'` differs from `m` only in what the instruction at the program counter may write, program
counter, cycles and the mark of a crash apart. -/
structure Confined (m m' : Machine) : Prop where
  memory : ∀ a, m'.memory.read? a ≠ m.memory.read? a → ∃ w,
    (m.Meets .storeDecimal w ∧ m.index ≤ a ∧ a ≤ m.index + 2) ∨
      (m.Meets .storeRegs w ∧ m.index ≤ a ∧ a ≤ m.index + digit w 0x100)
  display : ∀ col row, m'.display.get col row ≠ m.display.get col row → ∃ w,
    m.Meets .clear w ∨ (m.Meets .draw w ∧ ∃ c r, c < 8 ∧ r < w % 0x10 ∧
      ((m.registers.read (digit w 0x100)).toNat + c) % 64 = col.val ∧
      ((m.registers.read (digit w 0x10)).toNat + r) % 32 = row.val)
  registers : ∀ k, m'.registers.read k ≠ m.registers.read k →
    ∃ op w, m.Meets op w ∧ op.Writes (digit w 0x100) k
  stack : ∀ k, m'.stack.read k ≠ m.stack.read k → ∃ w, m.Meets .call w ∧ m.sp = k.val
  sp : m'.sp ≠ m.sp → ∃ w,
    (m.Meets .call w ∧ m'.sp = m.sp + 1) ∨ (m.Meets .ret w ∧ m'.sp = m.sp - 1)
  index : m'.index ≠ m.index → ∃ op w, m.Meets op w ∧
    (op = .loadIndex ∨ op = .addIndex ∨ op = .loadGlyph)
  delay : m'.delay ≠ m.delay → ∃ w, m.Meets .setDelay w
  sound : m'.sound ≠ m.sound → ∃ w, m.Meets .setSound w
  random : m'.random ≠ m.random → ∃ w, m.Meets .random w
  wait : m'.waiting ≠ m.waiting ∨ m'.keyRegister ≠ m.keyRegister → ∃ w, m.Meets .waitKey w
  keypad : m'.keypad = m.keypad

theorem Confined.refl (m : Machine) : Confined m m where
  memory _ h := absurd rfl h
  display _ _ h := absurd rfl h
  registers _ h := absurd rfl h
  stack _ h := absurd rfl h
  sp h := absurd rfl h
  index h := absurd rfl h
  delay h := absurd rfl h
  sound h := absurd rfl h
  random h := absurd rfl h
  wait h := h.elim (absurd rfl) (absurd rfl)
  keypad := rfl

theorem Effect.confined {op : Op} {w : Nat} (e : Effect m.fetched (.ofWord op w) m')
    (hi : 0 ≤ m.index) (h : m.Meets op w) : Confined m m' where
  memory a ha := by
    refine ⟨w, ?_⟩
    rcases e.memory_ne hi ha with ⟨rfl, hr⟩ | ⟨rfl, hr⟩
    · exact .inl ⟨h, hr⟩
    · exact .inr ⟨h, hr⟩
  display col row hd := by
    refine ⟨w, ?_⟩
    rcases e.display_ne hi (Instruction.rows_ofWord_lt op w) hd with rfl | ⟨rfl, hr⟩
    · exact .inl h
    · exact .inr ⟨h, hr⟩
  registers k hk := ⟨op, w, h, e.registers_ne hi hk⟩
  stack k hk := by
    obtain ⟨rfl, hs⟩ := e.stack_ne hk
    exact ⟨w, h, hs⟩
  sp hs := by
    refine ⟨w, ?_⟩
    rcases e.sp_ne hs with ⟨rfl, hr⟩ | ⟨rfl, hr⟩
    · exact .inl ⟨h, hr⟩
    · exact .inr ⟨h, hr⟩
  index hx := ⟨op, w, h, Op.eq_of_setsIndex (e.index_ne hx)⟩
  delay hx := by
    obtain rfl := e.delay_ne hx
    exact ⟨w, h⟩
  sound hx := by
    obtain rfl := e.sound_ne hx
    exact ⟨w, h⟩
  random hx := by
    obtain rfl := e.random_ne hx
    exact ⟨w, h⟩
  wait hx := by
    obtain rfl := e.wait_ne hx
    exact ⟨w, h⟩
  keypad := e.keypad_eq

theorem Ready.confined_step (hr : m.Ready) (hb : Bounded m) : Confined m m.step.machine := by
  rcases m.fetch_cases with hn | ⟨w, hw, hu⟩ | ⟨op, w, hm⟩
  · rw [hr.step_of_no_word hn]
    exact { Confined.refl m with }
  · rw [hr.step_of_unknown hw hu]
    exact { Confined.refl m with }
  · have hc := ((hb.fetched hr hm.1).effect_execute (.ofWord op w)).confined hb.index_nonneg hm
    obtain ⟨crashed, cycles, hs⟩ := hr.machine_step hm
    rw [hs]
    exact { hc with }

/-- Looking for a key writes at most the register that waits for it. -/
theorem machine_poll (m : Machine) :
    ∃ registers waiting pc cycles, m.poll = { m with registers, waiting, pc, cycles } ∧
      ∀ k, registers.read k ≠ m.registers.read k → k = m.keyRegister := by
  unfold poll
  split
  · exact ⟨_, _, _, _, rfl, fun k hk => absurd rfl hk⟩
  · exact ⟨_, _, _, _, rfl, fun k hk => Bank.eq_of_read_write_ne hk⟩

/-- A step writes only what its instruction is there to write, completed or not; a machine that
waits for a key writes only the register that the key goes to. -/
theorem confined_step_of_reachable (h : Reachable m) :
    (m.Ready → Confined m m.step.machine) ∧
    (m.waiting = true → ∃ registers waiting pc cycles,
      m.step.machine = { m with registers, waiting, pc, cycles } ∧
        ∀ k, registers.read k ≠ m.registers.read k → k = m.keyRegister) := by
  have hb := h.bounded
  constructor
  · intro hr
    exact hr.confined_step hb
  · intro hw
    rw [step_of_waiting (hb.not_crashed hw) hw]
    exact m.machine_poll

/-- Registers that do not all fit behind the index register, and a wait that ends. -/
theorem confined_step_of_reachable_edges :
    let m := (fresh 0).applyAll [.load (.bytes [0xAF, 0xFE, 0xF3, 0x55]), .step]
    let n := (fresh 0).applyAll [.load (.bytes [0xF3, 0x0A]), .step, .setKey 5 true]
    (Reachable m ∧ m.Ready ∧ m.step.error ≠ none) ∧
      (∀ k, m.step.machine.registers.read k = m.registers.read k) ∧
      m.step.machine.memory.read? 0xFFD = m.memory.read? 0xFFD ∧
    (Reachable n ∧ n.waiting = true) ∧ n.step.machine.memory = n.memory := by
  intro m n
  have hm : Reachable m := (reachable_fresh 0).applyAll _ (by decide)
  have hn : Reachable n := (reachable_fresh 0).applyAll _ (by decide)
  obtain ⟨hc, hw, hi, hword, he⟩ : m.crashed = false ∧ m.waiting = false ∧ m.index = 0xFFE ∧
      m.memory.word? m.pc = some 0xF355 ∧ m.step.error ≠ none := by decide +kernel
  have hwn : n.waiting = true := by decide +kernel
  have hr : m.Ready := ⟨hc, hw⟩
  have hmeets : m.Meets .storeRegs 0xF355 := ⟨hword, by decide⟩
  clear_value m n
  have hcon := (confined_step_of_reachable hm).1 hr
  refine ⟨⟨hm, hr, he⟩, fun k => ?_, ?_, ⟨hn, hwn⟩, ?_⟩
  · apply Decidable.byContradiction
    intro hk
    obtain ⟨op, w, hmw, hwr⟩ := hcon.registers k hk
    obtain ⟨rfl, rfl⟩ := hmw.unique hmeets
    exact hwr
  · apply Decidable.byContradiction
    intro ha
    obtain ⟨w, ⟨-, ha, -⟩ | ⟨-, ha, -⟩⟩ := hcon.memory _ ha <;> omega
  · obtain ⟨registers, waiting, pc, cycles, hs, -⟩ := (confined_step_of_reachable hn).2 hwn
    rw [hs]

end Machine

end Chip8
