import Chip8.Proofs.Bounds

/-!
# What makes a step fail

The causes of a step's failure are few, and each is told by the word at the program counter and by
one comparison: with the end of memory, the depth of the stack or the number of keys. `Faults` lists
them together with the fault that is reported, and `error_step_iff` says that the list is complete.
-/

namespace Chip8

namespace Machine

variable {m : Machine} {f : Fault} {op : Op} {w : Nat}

/-- A step fails by the fault. Addresses count on past 0xFFFF, and the one reported is the first
outside memory. -/
inductive Faults (m : Machine) : Fault → Prop
  | fetch (h : 4095 ≤ m.pc) : Faults m (.memoryAccess m.pc)
  | unknown {w : Nat} (hw : m.memory.word? m.pc = some w) (h : ∀ op : Op, ¬ op.format.Matches w) :
    Faults m (.unknownInstruction w (some m.pc))
  | ret {w : Nat} (h : m.Meets .ret w) (hs : m.sp = 0) : Faults m (.stackUnderflow m.pc)
  | call {w : Nat} (h : m.Meets .call w) (hs : m.sp = 16) : Faults m (.stackOverflow m.pc)
  | key {op : Op} {w : Nat} (h : m.Meets op w) (hop : op = .skipPressed ∨ op = .skipReleased)
    (hk : 15 < (m.registers.read (digit w 0x100)).toNat) :
    Faults m (.keyIndex (m.registers.read (digit w 0x100)).toNat)
  | decimal {w : Nat} (h : m.Meets .storeDecimal w) (hi : 4095 < m.index + 2) :
    Faults m (.memoryAccess (max m.index 4096))
  | registers {op : Op} {w : Nat} (h : m.Meets op w) (hop : op = .storeRegs ∨ op = .loadRegs)
    (hi : 4095 < m.index + digit w 0x100) : Faults m (.memoryAccess (max m.index 4096))
  | sprite {w : Nat} (h : m.Meets .draw w) (hn : 1 ≤ w % 0x10)
    (hi : 4095 < m.index + (w % 0x10 : Nat) - 1) : Faults m (.memoryAccess (max m.index 4096))

/-! ## Operations that can fail -/

theorem fetched_pc_sub (m : Machine) : m.fetched.pc - 2 = m.pc := Int.add_sub_cancel m.pc 2

namespace Ready

theorem error_step_ret (hr : m.Ready) (hb : Bounded m) (h : m.Meets .ret w) :
    m.step.error = if m.sp = 0 then some (.fault (.stackUnderflow m.pc)) else none := by
  rw [hr.error_step h, attempt_ret]
  by_cases hs : m.sp = 0
  · rw [ret_of_empty (m := m.fetched) hs, fetched_pc_sub, if_pos hs]
    rfl
  · have h0 := hb.sp_nonneg
    obtain ⟨k, -, hk⟩ := ret_of_pending (m := m.fetched) (show 0 < m.sp by omega) hb.sp_le
    rw [hk, if_neg hs]
    rfl

theorem error_step_call (hr : m.Ready) (hb : Bounded m) (h : m.Meets .call w) :
    m.step.error = if m.sp = 16 then some (.fault (.stackOverflow m.pc)) else none := by
  rw [hr.error_step h, attempt_call]
  have h1 := hb.sp_le
  by_cases hs : m.sp = 16
  · rw [call_of_full (m := m.fetched) (show 16 ≤ m.sp by omega), fetched_pc_sub, if_pos hs]
    rfl
  · have hp := hb.fetched hr h.1
    have h2 := hp.two_le_pc
    have h3 := hp.pc_le_size
    obtain ⟨k, -, hk⟩ := call_of_room hp.sp_nonneg (show m.sp < 16 by omega)
      ⟨by omega, by omega⟩ (w % 0x1000 : Nat)
    rw [hk, if_neg hs]
    rfl

theorem error_step_key (hr : m.Ready) (h : m.Meets op w)
    (hop : op = .skipPressed ∨ op = .skipReleased) :
    m.step.error =
      if 15 < (m.registers.read (digit w 0x100)).toNat then
        some (.fault (.keyIndex (m.registers.read (digit w 0x100)).toNat))
      else none := by
  obtain ⟨down, hd⟩ := attempt_skipIfKey hop m w
  rw [hr.error_step h, hd]
  split
  · next hk => rw [skipIfKey_of_le hk]; rfl
  · next hk => rw [skipIfKey_of_lt (by omega)]; rfl

theorem error_step_of_transfers (hr : m.Ready) (hb : Bounded m) (h : m.Meets op w)
    (ht : op.transfers = true) :
    m.step.error =
      if 0 < (Instruction.ofWord op w).span ∧ 4096 < m.index + (Instruction.ofWord op w).span then
        some (.fault (.memoryAccess (max m.index 4096)))
      else none := by
  have h0 := hb.index_nonneg
  rw [hr.error_step h, attempt, error_execute_of_transfers ht]
  show (Memory.stop m.index _).map _ = _
  split
  · next hs => rw [(Memory.stop_eq_some h0).2 ⟨hs.1, hs.2, rfl⟩]; rfl
  · next hs => rw [(Memory.stop_eq_none h0).2 (by omega)]; rfl

end Ready

/-! ## The list is right and complete -/

theorem Faults.error_step (h : Faults m f) (hb : Bounded m) (hr : m.Ready) :
    m.step.error = some (.fault f) := by
  cases h with
  | fetch h =>
    rw [hr.step_of_no_word (Memory.word?_eq_none.2 (.inr h))]
    rfl
  | unknown hw hu =>
    rw [hr.step_of_unknown hw hu]
    rfl
  | ret h hs => rw [hr.error_step_ret hb h, if_pos hs]
  | call h hs => rw [hr.error_step_call hb h, if_pos hs]
  | key h hop hk => rw [hr.error_step_key h hop, if_pos hk]
  | decimal h hi =>
    rw [hr.error_step_of_transfers hb h rfl, if_pos]
    simp only [Instruction.span, Instruction.ofWord]
    omega
  | registers h hop hi =>
    rcases hop with rfl | rfl <;>
      rw [hr.error_step_of_transfers hb h rfl, if_pos] <;>
      simp only [Instruction.span, Instruction.ofWord] <;> omega
  | sprite h hn hi =>
    rw [hr.error_step_of_transfers hb h rfl, if_pos]
    simp only [Instruction.span, Instruction.ofWord, Int.toNat_natCast]
    omega

theorem faults_of_error_step {e : Error} (hb : Bounded m) (hr : m.Ready)
    (he : m.step.error = some e) : ∃ f, Faults m f ∧ e = .fault f := by
  rcases m.fetch_cases with hn | ⟨w, hw, hu⟩ | ⟨op, w, hm⟩
  · rw [hr.step_of_no_word hn] at he
    cases he
    have hp := hb.pc_nonneg
    have ha := Memory.word?_eq_none.1 hn
    exact ⟨_, .fetch (by omega), rfl⟩
  · rw [hr.step_of_unknown hw hu] at he
    cases he
    exact ⟨_, .unknown hw hu, rfl⟩
  cases hc : op.canFail with
  | false =>
    rw [hr.error_step hm, attempt, error_execute_of_canFail hc] at he
    cases he
  | true =>
    rcases Op.eq_of_canFail hc with rfl | rfl | hop | ht
    · rw [hr.error_step_ret hb hm] at he
      split at he <;> cases he
      exact ⟨_, .ret hm (by assumption), rfl⟩
    · rw [hr.error_step_call hb hm] at he
      split at he <;> cases he
      exact ⟨_, .call hm (by assumption), rfl⟩
    · rw [hr.error_step_key hm hop] at he
      split at he <;> cases he
      exact ⟨_, .key hm hop (by assumption), rfl⟩
    · rw [hr.error_step_of_transfers hb hm ht] at he
      split at he <;> cases he
      next hs =>
      rcases Op.eq_of_transfers ht with rfl | hop | rfl
      · simp only [Instruction.span, Instruction.ofWord] at hs
        exact ⟨_, .decimal hm (by omega), rfl⟩
      · have hx : (Instruction.ofWord op w).span = (digit w 0x100).val + 1 := by
          rcases hop with rfl | rfl <;> rfl
        exact ⟨_, .registers hm hop (by omega), rfl⟩
      · simp only [Instruction.span, Instruction.ofWord, Int.toNat_natCast] at hs
        exact ⟨_, .sprite hm hs.1 (by omega), rfl⟩

/-- A step of a machine that came about and has not crashed fails exactly by the faults that are
listed, in every other case it succeeds and leaves a machine that has not crashed; waiting for a key
it never fails. -/
theorem error_step_iff (h : Reachable m) (hc : m.crashed = false) :
    (m.waiting = false →
      (∀ e, m.step.error = some e ↔ ∃ f, Faults m f ∧ e = .fault f) ∧
      ((∀ f, ¬ Faults m f) → m.step.error = none ∧ m.step.machine.crashed = false)) ∧
    (m.waiting = true → m.step.error = none) := by
  have hb := h.bounded
  constructor
  · intro hw
    have hr : m.Ready := ⟨hc, hw⟩
    have he : ∀ e, m.step.error = some e ↔ ∃ f, Faults m f ∧ e = .fault f := by
      intro e
      constructor
      · exact faults_of_error_step hb hr
      · rintro ⟨f, hf, rfl⟩
        exact hf.error_step hb hr
    refine ⟨he, fun hn => ?_⟩
    have hnone : m.step.error = none := by
      rw [Option.eq_none_iff_forall_ne_some]
      intro e hs
      obtain ⟨f, hf, -⟩ := (he e).1 hs
      exact hn f hf
    refine ⟨hnone, Bool.eq_false_iff.2 fun ht => ?_⟩
    exact hb.step.error_iff.2 ht hnone
  · intro hw
    rw [step_of_waiting hc hw]
    rfl

/-- Decimal digits of which the last does not fit. -/
theorem error_step_iff_decimal :
    let m := (fresh 0).applyAll [.load (.bytes [0xAF, 0xFE, 0xF3, 0x33]), .step]
    (Reachable m ∧ m.crashed = false ∧ m.waiting = false) ∧
      m.step.error = some (.fault (.memoryAccess 4096)) := by
  intro m
  have hm : Reachable m := (reachable_fresh 0).applyAll _ (by decide)
  obtain ⟨hc, hw, hi, hword⟩ : m.crashed = false ∧ m.waiting = false ∧ m.index = 4094 ∧
      m.memory.word? m.pc = some 0xF333 := by decide +kernel
  have hmeets : m.Meets .storeDecimal 0xF333 := ⟨hword, by decide⟩
  clear_value m
  have hf : Faults m (.memoryAccess (max m.index 4096)) := .decimal hmeets (by omega)
  refine ⟨⟨hm, hc, hw⟩, (((error_step_iff hm hc).1 hw).1 _).2 ⟨_, hf, ?_⟩⟩
  rw [hi]
  rfl

end Machine

end Chip8
