import Chip8.Proofs.Faults
import Chip8.Proofs.Transfers

/-!
# What a failed step leaves

An instruction that fails has done its transfers as far as memory goes and nothing else, and where
it transfers nothing it leaves everything as it was. Behind a failed step there stands therefore the
machine from before, crashed and maybe past the word, with the part of the transfers that went
through.
-/

namespace Chip8

namespace Machine

variable {m : Machine} {op : Op} {w : Nat}

/-- A failed instruction has got as far as its transfers. -/
theorem machine_attempt_of_error (hb : Bounded m) (hr : m.Ready) (h : m.Meets op w)
    (he : m.step.error ≠ none) :
    (m.attempt op w).machine = m.fetched.transferring (.ofWord op w) := by
  cases hc : op.canFail with
  | false =>
    rw [hr.error_step h, attempt, error_execute_of_canFail hc] at he
    exact absurd rfl he
  | true =>
  rcases Op.eq_of_canFail hc with rfl | rfl | hop | ht
  · rw [transferring_of_op rfl, attempt_ret]
    by_cases hs : m.sp = 0
    · exact congrArg Outcome.machine (ret_of_empty (m := m.fetched) hs)
    · rw [hr.error_step_ret hb h, if_neg hs] at he
      exact absurd rfl he
  · rw [transferring_of_op rfl, attempt_call]
    by_cases hs : m.sp = 16
    · exact congrArg Outcome.machine
        (call_of_full (m := m.fetched) (show 16 ≤ m.sp by omega) _)
    · rw [hr.error_step_call hb h, if_neg hs] at he
      exact absurd rfl he
  · by_cases hk : 15 < (m.registers.read (digit w 0x100)).toNat
    · obtain ⟨down, hd⟩ := attempt_skipIfKey hop m w
      have ht : op.transfers = false := by rcases hop with rfl | rfl <;> rfl
      rw [transferring_of_op ht, hd]
      exact congrArg Outcome.machine (skipIfKey_of_le hk down)
    · rw [hr.error_step_key h hop, if_neg hk] at he
      exact absurd rfl he
  · rw [hr.error_step h] at he
    exact machine_execute_of_transfers ht he

/-- A step that fails in its instruction has done the transfers, stands behind the word and is
marked as crashed. -/
theorem machine_step_of_meets (hb : Bounded m) (hr : m.Ready) (h : m.Meets op w)
    (he : m.step.error ≠ none) :
    m.step.machine =
      { m.transferring (.ofWord op w) with pc := m.pc + 2, crashed := true } := by
  have ha := machine_attempt_of_error hb hr h he
  rw [hr.error_step h] at he
  obtain ⟨e, hs⟩ := Option.ne_none_iff_exists'.1 he
  obtain ⟨-, f, rfl⟩ := (hb.attempt hr h).fault e hs
  rw [hr.step_of_fault h hs, crash, ha]
  rfl

/-- Whatever makes a step fail, much of the machine is as it was. -/
theorem exists_machine_of_error (hb : Bounded m) (he : m.step.error ≠ none) :
    ∃ memory registers display pc crashed,
      m.step.machine = { m with memory, registers, display, pc, crashed } := by
  by_cases hr : m.Ready
  · rcases m.fetch_cases with hn | ⟨w, hw, hu⟩ | ⟨op, w, hm⟩
    · rw [hr.step_of_no_word hn]
      exact ⟨_, _, _, _, _, rfl⟩
    · rw [hr.step_of_unknown hw hu]
      exact ⟨_, _, _, _, _, rfl⟩
    · rw [machine_step_of_meets hb hr hm he]
      exact ⟨_, _, _, _, _, rfl⟩
  · cases hc : m.crashed with
    | true =>
      rw [step_of_crashed hc]
      exact ⟨_, _, _, _, _, rfl⟩
    | false =>
    cases hw : m.waiting with
    | true =>
      rw [step_of_waiting hc hw] at he
      exact absurd rfl he
    | false => exact absurd ⟨hc, hw⟩ hr

/-- A failed step leaves the machine crashed, past the word if there was one, and otherwise as it
was, but for the four instructions that transfer cells: they have done so with the cells in
memory. -/
theorem left_of_fault (h : Reachable m) (hr : m.Ready) (he : m.step.error ≠ none) :
    ∃ memory registers display,
      m.step.machine =
        { m with
          memory, registers, display
          pc := if 4095 ≤ m.pc then m.pc else m.pc + 2
          crashed := true } ∧
      (∀ op w, m.Meets op w → op.transfers = true →
        Memory.Overlaid m.memory memory m.index (m.stores (.ofWord op w)) ∧
        m.Reloaded registers (Instruction.ofWord op w).loads ∧
        m.Redrawn display (m.registers.read (digit w 0x100)).toNat
          (m.registers.read (digit w 0x10)).toNat (Instruction.ofWord op w).rows) ∧
      ((∀ op w, m.Meets op w → op.transfers = false) ∨ 4096 ≤ m.index →
        memory = m.memory ∧ registers = m.registers ∧ display = m.display) := by
  have hb := h.bounded
  rcases m.fetch_cases with hn | ⟨w, hw, hu⟩ | ⟨op, w, hm⟩
  · have hp := hb.pc_nonneg
    have ha := Memory.word?_eq_none.1 hn
    refine ⟨m.memory, m.registers, m.display, ?_, ?_, fun _ => ⟨rfl, rfl, rfl⟩⟩
    · rw [hr.step_of_no_word hn, if_pos (by omega)]
      rfl
    · intro op w hm
      rw [hm.1] at hn
      cases hn
  · have ha := Memory.bounds_of_word? hw
    refine ⟨m.memory, m.registers, m.display, ?_, ?_, fun _ => ⟨rfl, rfl, rfl⟩⟩
    · rw [hr.step_of_unknown hw hu, if_neg (by omega)]
      rfl
    · intro op w' hm
      rw [hm.1] at hw
      cases hw
      exact absurd hm.2 (hu op)
  · have ha := hm.pc_bounds
    let t := m.transferring (.ofWord op w)
    refine ⟨t.memory, t.registers, t.display, ?_, ?_, ?_⟩
    · rw [machine_step_of_meets hb hr hm he, if_neg (by omega)]
      rfl
    · intro op' w' hm' _
      obtain ⟨rfl, rfl⟩ := hm.unique hm'
      have h0 := hb.index_nonneg
      have hrows := Instruction.rows_ofWord_lt op w
      exact ⟨Memory.overlaid_store _ h0 _, reloaded_load h0 _, redrawn_draw h0 (by omega) _ _⟩
    · intro hi
      have ht : t = m := by
        rcases hi with hop | hi
        · exact transferring_of_op (hop op w hm)
        · exact transferring_of_outside hi _
      rw [ht]
      exact ⟨rfl, rfl, rfl⟩

/-- Decimal digits of which the last does not fit: the other two are in memory. -/
theorem left_of_fault_decimal :
    let m := (fresh 0).applyAll
      [.load (.bytes [0x63, 0xFB, 0xAF, 0xFE, 0xF3, 0x33]), .step, .step]
    (Reachable m ∧ m.Ready ∧ m.step.error ≠ none) ∧
      m.step.machine.memory.read? 0xFFE = some 2 ∧ m.step.machine.memory.read? 0xFFF = some 5 ∧
        m.step.machine.pc = m.pc + 2 ∧ m.step.machine.index = m.index := by
  intro m
  have hm : Reachable m := (reachable_fresh 0).applyAll _ (by decide)
  obtain ⟨hc, hw, hi, hp, hd, hword, he⟩ : m.crashed = false ∧ m.waiting = false ∧
      m.index = 0xFFE ∧ ¬ 4095 ≤ m.pc ∧ m.stores (.ofWord .storeDecimal 0xF333) = [2, 5, 1] ∧
      m.memory.word? m.pc = some 0xF333 ∧ m.step.error ≠ none := by decide +kernel
  have hr : m.Ready := ⟨hc, hw⟩
  have hmeets : m.Meets .storeDecimal 0xF333 := ⟨hword, by decide⟩
  clear_value m
  obtain ⟨memory, registers, display, hs, ht, -⟩ := left_of_fault hm hr he
  obtain ⟨⟨hput, -⟩, -⟩ := ht _ _ hmeets rfl
  rw [hd, hi] at hput
  rw [hs, if_neg hp]
  exact ⟨⟨hm, hr, he⟩, hput 0 2 rfl (by decide), hput 1 5 rfl (by decide), rfl, rfl⟩

end Machine

end Chip8
