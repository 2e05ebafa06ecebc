import Chip8.Machine.Call
import Chip8.Proofs.Decoding

/-!
# One step

A step of a machine that neither crashed nor waits for a key meets one of three things at its
program counter: no word, a word that is no instruction, or an instruction. Only in the last case
is there something to execute, and then the program counter is already behind the word.
-/

namespace Chip8

namespace Machine

variable {m : Machine} {op : Op} {w : Nat}

/-- Nothing keeps the machine from fetching. -/
structure Ready (m : Machine) : Prop where
  not_crashed : m.crashed = false
  not_waiting : m.waiting = false

theorem Ready.crashed_ne_true (hr : m.Ready) : m.crashed ≠ true :=
  Bool.eq_false_iff.1 hr.not_crashed

theorem Ready.waiting_ne_true (hr : m.Ready) : m.waiting ≠ true :=
  Bool.eq_false_iff.1 hr.not_waiting

/-- At the program counter stands the word `w`, which is of the form of `op`. -/
def Meets (m : Machine) (op : Op) (w : Nat) : Prop :=
  m.memory.word? m.pc = some w ∧ op.format.Matches w

/-- The instruction that the next step executes. -/
def next? (m : Machine) : Option Instruction :=
  if m.crashed ∨ m.waiting then none
  else (m.memory.word? m.pc).bind fun word => (decode word).toOption

/-- The instruction that an operation executes; a run may execute many. -/
def executed? (m : Machine) : Call → Option Instruction
  | .step => m.next?
  | .execute ins => some ins
  | .load _ | .tick | .setKey _ _ | .run _ _ | .reset => none

/-- `P` holds of every instruction that the operations execute one by one and of the machine that it
is executed on. -/
def Throughout (P : Machine → Instruction → Prop) (m : Machine) : List Call → Prop
  | [] => True
  | c :: cs => (∀ ins, m.executed? c = some ins → P m ins) ∧ (m.apply c).machine.Throughout P cs

instance decidableThroughout {P : Machine → Instruction → Prop} [∀ m ins, Decidable (P m ins)]
    (m : Machine) : (cs : List Call) → Decidable (m.Throughout P cs)
  | [] => isTrue trivial
  | c :: cs =>
    have := decidableThroughout (P := P) (m.apply c).machine cs
    inferInstanceAs (Decidable ((∀ ins ∈ m.executed? c, P m ins) ∧ _))

def fetched (m : Machine) : Machine := { m with pc := m.pc + 2 }

/-- What the instruction that is met comes to, before the step closes with it. -/
def attempt (m : Machine) (op : Op) (w : Nat) : Outcome := m.fetched.execute (.ofWord op w)

theorem attempt_ret (m : Machine) (w : Nat) : m.attempt .ret w = m.fetched.ret := rfl

theorem attempt_call (m : Machine) (w : Nat) :
    m.attempt .call w = m.fetched.call (w % 0x1000 : Nat) := rfl

theorem attempt_skipIfKey (hop : op = .skipPressed ∨ op = .skipReleased) (m : Machine) (w : Nat) :
    ∃ down, m.attempt op w = m.fetched.skipIfKey (m.registers.read (digit w 0x100)) down := by
  rcases hop with rfl | rfl
  · exact ⟨true, rfl⟩
  · exact ⟨false, rfl⟩

/-- At the program counter stands no word, a word that is no instruction, or an instruction. -/
theorem fetch_cases (m : Machine) :
    m.memory.word? m.pc = none ∨
      (∃ w, m.memory.word? m.pc = some w ∧ ∀ op : Op, ¬ op.format.Matches w) ∨
      ∃ op w, m.Meets op w := by
  cases hw : m.memory.word? m.pc with
  | none => exact .inl rfl
  | some w =>
    cases ho : Op.ofWord? w with
    | none => exact .inr (.inl ⟨w, rfl, Op.ofWord?_eq_none.1 ho⟩)
    | some op => exact .inr (.inr ⟨op, w, hw, Op.ofWord?_eq_some.1 ho⟩)

theorem Meets.pc_bounds (h : m.Meets op w) : 0 ≤ m.pc ∧ m.pc ≤ 4094 := Memory.bounds_of_word? h.1

theorem Meets.unique {op' : Op} {w' : Nat} (h : m.Meets op w) (h' : m.Meets op' w') :
    op = op' ∧ w = w' := by
  have hw : w = w' := Option.some_inj.1 (h.1.symm.trans h'.1)
  subst hw
  have ho := (Op.ofWord?_eq_some.2 h.2).symm.trans (Op.ofWord?_eq_some.2 h'.2)
  exact ⟨Option.some_inj.1 ho, rfl⟩

theorem decodeAt_of_matches (hw : w < 0x10000) (h : op.format.Matches w) (a : Int) :
    decodeAt w a = .ok (.ofWord op w) := by
  rw [decodeAt, decode_natCast hw, Op.ofWord?_eq_some.2 h]

theorem decodeAt_of_unknown (hw : w < 0x10000) (h : ∀ op : Op, ¬ op.format.Matches w) (a : Int) :
    decodeAt w a = .error (.unknownInstruction w (some a)) := by
  rw [decodeAt, decode_natCast hw, Op.ofWord?_eq_none.2 h]

theorem perform_of_decoded {ins : Instruction} {a : Int} (h : decodeAt w a = .ok ins) :
    m.perform w a = match (m.execute ins).error with
      | none => .done { (m.execute ins).machine with cycles := (m.execute ins).machine.cycles + 1 }
      | some (.fault f) => (m.execute ins).machine.crash f (.crashed w a f)
      | some e => .fail (m.execute ins).machine e := by
  unfold perform
  split
  · next f hf =>
    rw [h] at hf
    cases hf
  · next ins' hi =>
    rw [h] at hi
    cases hi
    rfl

/-! ## The instruction that a step executes -/

theorem next?_of_not_ready (h : ¬ m.Ready) : m.next? = none := by
  refine if_pos ?_
  cases hc : m.crashed
  · cases hw : m.waiting
    · exact absurd ⟨hc, hw⟩ h
    · exact .inr rfl
  · exact .inl rfl

theorem Ready.next?_eq (hr : m.Ready) :
    m.next? = (m.memory.word? m.pc).bind fun word => (decode word).toOption := by
  refine if_neg ?_
  rintro (h | h)
  · exact hr.crashed_ne_true h
  · exact hr.waiting_ne_true h

theorem Ready.next?_of_meets (hr : m.Ready) (h : m.Meets op w) :
    m.next? = some (.ofWord op w) := by
  rw [hr.next?_eq, h.1, Option.bind_some, decode_natCast (Memory.word?_lt h.1),
    Op.ofWord?_eq_some.2 h.2]
  rfl

theorem Ready.next?_of_unknown (hr : m.Ready) (hw : m.memory.word? m.pc = some w)
    (h : ∀ op : Op, ¬ op.format.Matches w) : m.next? = none := by
  rw [hr.next?_eq, hw, Option.bind_some, decode_natCast (Memory.word?_lt hw),
    Op.ofWord?_eq_none.2 h]
  rfl

theorem Ready.next?_of_no_word (hr : m.Ready) (h : m.memory.word? m.pc = none) :
    m.next? = none := by
  rw [hr.next?_eq, h, Option.bind_none]

/-! ## Steps that fetch nothing -/

theorem step_of_crashed (h : m.crashed = true) : m.step = .fail m (.fault (.halted m.pc)) :=
  if_pos h

theorem not_crashed_of_error_eq_none (h : m.step.error = none) : m.crashed = false := by
  refine Bool.eq_false_iff.2 fun hc => ?_
  rw [step_of_crashed hc] at h
  cases h

theorem step_of_waiting (hc : m.crashed = false) (hw : m.waiting = true) :
    m.step = .done m.poll := by
  rw [step, if_neg (Bool.eq_false_iff.1 hc), if_pos hw]

/-! ## Steps that fetch -/

namespace Ready

theorem step_eq (hr : m.Ready) :
    m.step = match m.memory.word? m.pc with
      | none => m.crash (.memoryAccess m.pc) (.fetchFailed m.pc (.memoryAccess m.pc))
      | some word => m.fetched.perform word m.pc := by
  rw [step, if_neg hr.crashed_ne_true, if_neg hr.waiting_ne_true]
  rfl

theorem step_of_word (hr : m.Ready) (h : m.memory.word? m.pc = some w) :
    m.step = m.fetched.perform w m.pc := by
  rw [hr.step_eq, h]

theorem step_of_no_word (hr : m.Ready) (h : m.memory.word? m.pc = none) :
    m.step = m.crash (.memoryAccess m.pc) (.fetchFailed m.pc (.memoryAccess m.pc)) := by
  rw [hr.step_eq, h]

theorem step_of_unknown (hr : m.Ready) (hw : m.memory.word? m.pc = some w)
    (h : ∀ op : Op, ¬ op.format.Matches w) :
    m.step = m.fetched.crash (.unknownInstruction w (some m.pc))
      (.crashed w m.pc (.unknownInstruction w (some m.pc))) := by
  rw [hr.step_of_word hw]
  simp only [perform, decodeAt_of_unknown (Memory.word?_lt hw) h]

/-- What `step` makes of an instruction: it counts, or it crashes the machine. -/
theorem step_of_meets (hr : m.Ready) (h : m.Meets op w) :
    m.step = match (m.attempt op w).error with
      | none => .done { (m.attempt op w).machine with
          cycles := (m.attempt op w).machine.cycles + 1 }
      | some (.fault f) => (m.attempt op w).machine.crash f (.crashed w m.pc f)
      | some e => .fail (m.attempt op w).machine e := by
  rw [hr.step_of_word h.1]
  exact perform_of_decoded (decodeAt_of_matches (Memory.word?_lt h.1) h.2 m.pc)

theorem step_of_done (hr : m.Ready) (h : m.Meets op w) (he : (m.attempt op w).error = none) :
    m.step = .done { (m.attempt op w).machine with
      cycles := (m.attempt op w).machine.cycles + 1 } := by
  rw [hr.step_of_meets h, he]

theorem step_of_fault {f : Fault} (hr : m.Ready) (h : m.Meets op w)
    (he : (m.attempt op w).error = some (.fault f)) :
    m.step = (m.attempt op w).machine.crash f (.crashed w m.pc f) := by
  rw [hr.step_of_meets h, he]

/-- The error of a step is that of its instruction. -/
theorem error_step (hr : m.Ready) (h : m.Meets op w) : m.step.error = (m.attempt op w).error := by
  rw [hr.step_of_meets h]
  split
  case h_1 he => exact he.symm
  case h_2 he => exact he.symm
  case h_3 he => exact he.symm

/-- A step that fetches and does not fail has met an instruction. -/
theorem exists_meets (hr : m.Ready) (he : m.step.error = none) :
    ∃ op w, m.Meets op w ∧ (m.attempt op w).error = none := by
  rcases m.fetch_cases with hn | ⟨w, hw, hu⟩ | ⟨op, w, hm⟩
  · rw [hr.step_of_no_word hn] at he
    cases he
  · rw [hr.step_of_unknown hw hu] at he
    cases he
  · exact ⟨op, w, hm, (hr.error_step hm).symm.trans he⟩

/-- A step leaves what its instruction left, completed or crashed. -/
theorem machine_step (hr : m.Ready) (h : m.Meets op w) :
    ∃ crashed cycles, m.step.machine = { (m.attempt op w).machine with crashed, cycles } := by
  rw [hr.step_of_meets h]
  split
  · exact ⟨_, _, rfl⟩
  · exact ⟨_, _, rfl⟩
  · exact ⟨_, _, rfl⟩

end Ready

/-! ## Steps with an instruction and without -/

/-- A step executes its instruction behind the word that was fetched, and closes with it. -/
theorem step_of_next? {ins : Instruction} (h : m.next? = some ins) :
    m.step.error = (m.fetched.execute ins).error ∧ ∃ crashed cycles,
      m.step.machine = { (m.fetched.execute ins).machine with crashed, cycles } := by
  by_cases hr : m.Ready
  · rcases m.fetch_cases with hn | ⟨w, hw, hu⟩ | ⟨op, w, hm⟩
    · rw [hr.next?_of_no_word hn] at h
      cases h
    · rw [hr.next?_of_unknown hw hu] at h
      cases h
    · cases (hr.next?_of_meets hm).symm.trans h
      exact ⟨hr.error_step hm, hr.machine_step hm⟩
  · rw [next?_of_not_ready hr] at h
    cases h

/-- A step without an instruction looks for a key or fails. -/
theorem machine_step_of_next?_eq_none (h : m.next? = none) :
    m.step.machine = m.poll ∨ ∃ pc crashed, m.step.machine = { m with pc, crashed } := by
  by_cases hr : m.Ready
  · rcases m.fetch_cases with hn | ⟨w, hw, hu⟩ | ⟨op, w, hm⟩
    · rw [hr.step_of_no_word hn]
      exact .inr ⟨_, _, rfl⟩
    · rw [hr.step_of_unknown hw hu]
      exact .inr ⟨_, _, rfl⟩
    · rw [hr.next?_of_meets hm] at h
      cases h
  · cases hc : m.crashed with
    | true =>
      rw [step_of_crashed hc]
      exact .inr ⟨_, _, rfl⟩
    | false =>
    cases hw : m.waiting with
    | true =>
      rw [step_of_waiting hc hw]
      exact .inl rfl
    | false => exact absurd ⟨hc, hw⟩ hr

/-- An operation that executes an instruction comes to what the instruction does, wherever it was
fetched from. -/
theorem apply_of_executed? {c : Call} {ins : Instruction} (h : m.executed? c = some ins) :
    ∃ pc crashed cycles, (m.apply c).error = ({ m with pc }.execute ins).error ∧
      (m.apply c).machine = { ({ m with pc }.execute ins).machine with crashed, cycles } := by
  cases c with
  | step =>
    obtain ⟨he, crashed, cycles, hs⟩ := step_of_next? h
    exact ⟨_, crashed, cycles, he, hs⟩
  | execute ins' =>
    cases h
    exact ⟨m.pc, _, _, rfl, rfl⟩
  | load | tick | setKey | run | reset => cases h

end Machine

end Chip8
