import Chip8.Proofs.AfterFault
import Chip8.Proofs.Chronicle
import Chip8.Proofs.WriteSets

/-!
# The call stack

The stack holds the return addresses of the calls that are not over yet, oldest first, whatever lies
in the slots behind them. A call goes on top, a return takes the latest one off, and nothing else
touches either. Hence the step that brings the stack pointer back to where it was before a call is
the return from that call.
-/

namespace Chip8

/-- Operations that take one step at most and do not start anew. -/
def Call.isSingle : Call → Bool
  | .step | .tick | .load _ | .setKey _ _ => true
  | .run _ _ | .reset | .execute _ => false

namespace Machine

variable {m : Machine} {op : Op} {w : Nat}

/-! ## Completed instructions -/

/-- The operation that the next step completes, if it completes one that it fetches. -/
def completed? (m : Machine) : Option Op :=
  if m.waiting ∨ m.step.error ≠ none then none else (m.memory.word? m.pc).bind Op.ofWord?

theorem completed?_eq_some :
    m.completed? = some op ↔ m.Ready ∧ (∃ w, m.Meets op w) ∧ m.step.error = none := by
  unfold completed?
  split
  · next h =>
    constructor
    · rintro ⟨⟩
    · rintro ⟨hr, -, he⟩
      rcases h with hw | hn
      · exact absurd hw hr.waiting_ne_true
      · exact absurd he hn
  · next h =>
    have hw : m.waiting = false := Bool.eq_false_iff.2 fun hw => h (.inl hw)
    have he : m.step.error = none := Decidable.byContradiction fun he => h (.inr he)
    rw [Option.bind_eq_some_iff]
    constructor
    · rintro ⟨w, hword, ho⟩
      exact ⟨⟨not_crashed_of_error_eq_none he, hw⟩, ⟨w, hword, Op.ofWord?_eq_some.1 ho⟩, he⟩
    · rintro ⟨-, ⟨w, hword, hm⟩, -⟩
      exact ⟨w, hword, Op.ofWord?_eq_some.2 hm⟩

/-- A completed call puts the address behind it into the slot at the stack pointer. -/
theorem step_of_completed_call (hb : Bounded m) (h : m.completed? = some .call) :
    ∃ (k : Nibble) (target : Int), (m.sp = k.val ∧ 0 ≤ m.pc ∧ m.pc ≤ 4094) ∧
      m.step = .done { m with
        stack := m.stack.write k (.ofInt (m.pc + 2)), sp := m.sp + 1, pc := target
        cycles := m.cycles + 1 } := by
  obtain ⟨hr, ⟨w, hm⟩, he⟩ := completed?_eq_some.1 h
  have hpc := hm.pc_bounds
  have hp := hb.fetched hr hm.1
  have h0 := hp.two_le_pc
  have h1 := hp.pc_le_size
  have hroom : m.sp < 16 := by
    have hle := hb.sp_le
    rw [hr.error_step_call hb hm] at he
    split at he
    · cases he
    · omega
  obtain ⟨k, hk, hc⟩ := call_of_room (m := m.fetched) hp.sp_nonneg hroom ⟨by omega, by omega⟩
    (w % 0x1000 : Nat)
  refine ⟨k, (w % 0x1000 : Nat), ⟨hk, hpc⟩, ?_⟩
  rw [hr.step_of_done hm (by rw [attempt_call, hc]; rfl), attempt_call, hc]
  rfl

/-- A completed return goes on at the address in the slot below the stack pointer. -/
theorem step_of_completed_ret (hb : Bounded m) (h : m.completed? = some .ret) :
    ∃ k : Nibble, m.sp = k.val + 1 ∧ m.step = .done { m with
      sp := m.sp - 1, pc := (m.stack.read k).toNat, cycles := m.cycles + 1 } := by
  obtain ⟨hr, ⟨w, hm⟩, he⟩ := completed?_eq_some.1 h
  have hpos : 0 < m.sp := by
    have h0 := hb.sp_nonneg
    rw [hr.error_step_ret hb hm] at he
    split at he
    · cases he
    · omega
  obtain ⟨k, hk, hc⟩ := ret_of_pending (m := m.fetched) hpos hb.sp_le
  refine ⟨k, hk, ?_⟩
  rw [hr.step_of_done hm (by rw [attempt_ret, hc]; rfl), attempt_ret, hc]
  rfl

/-! ## Steps that leave the stack alone -/

theorem stack_of_error (hb : Bounded m) (he : m.step.error ≠ none) :
    m.step.machine.sp = m.sp ∧ m.step.machine.stack = m.stack := by
  obtain ⟨_, _, _, _, _, hs⟩ := exists_machine_of_error hb he
  rw [hs]
  exact ⟨rfl, rfl⟩

/-- Calls and returns that are completed apart, nothing touches the stack. -/
theorem stack_of_not_completed (hb : Bounded m) (hcall : m.completed? ≠ some .call)
    (hret : m.completed? ≠ some .ret) :
    m.step.machine.sp = m.sp ∧ m.step.machine.stack = m.stack := by
  by_cases he : m.step.error = none
  · cases hw : m.waiting with
    | true =>
      rw [step_of_waiting (hb.not_crashed hw) hw]
      obtain ⟨registers, waiting, pc, cycles, hp, -⟩ := m.machine_poll
      rw [hp]
      exact ⟨rfl, rfl⟩
    | false =>
      have hr : m.Ready := ⟨not_crashed_of_error_eq_none he, hw⟩
      have hcon := hr.confined_step hb
      constructor
      · apply Decidable.byContradiction
        intro hs
        obtain ⟨w, ⟨hm, -⟩ | ⟨hm, -⟩⟩ := hcon.sp hs
        · exact hcall (completed?_eq_some.2 ⟨hr, ⟨w, hm⟩, he⟩)
        · exact hret (completed?_eq_some.2 ⟨hr, ⟨w, hm⟩, he⟩)
      · refine Bank.ext fun k => ?_
        apply Decidable.byContradiction
        intro hk
        obtain ⟨w, hm, -⟩ := hcon.stack k hk
        exact hcall (completed?_eq_some.2 ⟨hr, ⟨w, hm⟩, he⟩)
  · exact stack_of_error hb he

/-! ## The calls to return from -/

/-- The return addresses of the calls that are not over, oldest first. -/
def pendingCalls : Chronicle (List Int) where
  start := []
  step m calls :=
    match m.completed? with
    | some .call => calls ++ [m.pc + 2]
    | some .ret => calls.dropLast
    | _ => calls

/-- The slots below the stack pointer hold the list, and the stack pointer is its length. -/
structure Holds (m : Machine) (calls : List Int) : Prop where
  sp : m.sp = calls.length
  slot : ∀ (k : Nibble) (h : k.val < calls.length), ((m.stack.read k).toNat : Int) = calls[k.val]

theorem holds_fresh (seed : Nat) : Holds (fresh seed) [] where
  sp := rfl
  slot _ h := absurd h (Nat.not_lt_zero _)

variable {calls : List Int}

theorem Holds.push (h : Holds m calls) {k : Nibble} (hk : m.sp = k.val) {a : Int} (h0 : 0 ≤ a)
    (h1 : a < 0x10000) {m' : Machine} (hsp : m'.sp = m.sp + 1)
    (hst : m'.stack = m.stack.write k (.ofInt a)) : Holds m' (calls ++ [a]) := by
  have hlen := h.sp
  constructor
  · rw [hsp, hlen, List.length_append, List.length_singleton]
    omega
  · intro j hj
    rw [hst, Bank.read_write]
    by_cases hkj : k = j
    · have hl : j.val = calls.length := by
        subst hkj
        omega
      rw [if_pos hkj, toNat_ofInt_of_lt h0 h1]
      simp [hl]
    · have hv : k.val ≠ j.val := fun e => hkj (Fin.ext e)
      rw [List.length_append, List.length_singleton] at hj
      have hl : j.val < calls.length := by omega
      rw [if_neg hkj, List.getElem_append_left hl]
      exact h.slot j hl

theorem Holds.pop (h : Holds m calls) (hs : 0 < m.sp) {m' : Machine} (hsp : m'.sp = m.sp - 1)
    (hst : m'.stack = m.stack) : Holds m' calls.dropLast := by
  have hlen := h.sp
  constructor
  · rw [hsp, hlen, List.length_dropLast]
    omega
  · intro j hj
    rw [List.length_dropLast] at hj
    rw [hst, List.getElem_dropLast]
    exact h.slot j (by omega)

theorem Holds.keep (h : Holds m calls) {m' : Machine} (hsp : m'.sp = m.sp)
    (hst : m'.stack = m.stack) : Holds m' calls where
  sp := hsp.trans h.sp
  slot k hk := by
    rw [hst]
    exact h.slot k hk

/-- The slot below the stack pointer holds the latest call. -/
theorem Holds.slot_top (h : Holds m calls) {k : Nibble} (hk : m.sp = k.val + 1) :
    calls.getLast? = some ((m.stack.read k).toNat : Int) := by
  have hlen := h.sp
  rw [List.getLast?_eq_getElem?, show calls.length - 1 = k.val by omega,
    List.getElem?_eq_getElem (by omega), h.slot k (by omega)]

/-- A step does to the stack what it does to the list of calls. -/
theorem Holds.step (h : Holds m calls) (hb : Bounded m) :
    Holds m.step.machine (pendingCalls.step m calls) := by
  simp only [pendingCalls]
  split
  · next hcall =>
    obtain ⟨k, target, ⟨hk, h0, h1⟩, hs⟩ := step_of_completed_call hb hcall
    rw [hs]
    exact h.push hk (by omega) (by omega) rfl rfl
  · next hret =>
    obtain ⟨k, hk, hs⟩ := step_of_completed_ret hb hret
    rw [hs]
    exact h.pop (by omega) rfl rfl
  · next hcall hret =>
    have hkeep := stack_of_not_completed hb hcall hret
    exact h.keep hkeep.1 hkeep.2

theorem holds_applyAll (seed : Nat) {ops : List Call} (hops : ∀ op ∈ ops, op.isPublic = true) :
    Holds ((fresh seed).applyAll ops) (pendingCalls.applyAll (fresh seed) [] ops) :=
  pendingCalls.applyAll_induction holds_fresh (fun _ _ hb h => h.step hb)
    (fun _ _ h _ _ _ _ => h.keep rfl rfl) seed hops

/-- Calls within a run count. -/
example :
    pendingCalls.applyAll (fresh 0) []
      [.load (.bytes [0x22, 0x02, 0x22, 0x04]), .step, .tick, .run 1 1] = [0x202, 0x204] := by
  decide +kernel

/-! ## Returning from a call -/

/-- Still inside the call whose return address `a` went to the slot `k`. -/
structure Inside (k : Nibble) (a : Int) (m : Machine) : Prop where
  bounded : Bounded m
  deeper : k.val < m.sp
  slot : ((m.stack.read k).toNat : Int) = a

variable {k : Nibble} {a : Int}

theorem inside_of_call (hb : Bounded m) (hcall : m.completed? = some .call) (hk : m.sp = k.val) :
    Inside k (m.pc + 2) m.step.machine := by
  have hbs := hb.step.bounded
  obtain ⟨j, target, ⟨hj, h0, h1⟩, hs⟩ := step_of_completed_call hb hcall
  obtain rfl : j = k := Fin.ext (by omega)
  rw [hs] at hbs ⊢
  refine ⟨hbs, show (j.val : Int) < m.sp + 1 by omega, ?_⟩
  show (((m.stack.write j (.ofInt (m.pc + 2))).read j).toNat : Int) = m.pc + 2
  rw [Bank.read_write, if_pos rfl, toNat_ofInt_of_lt (by omega) (by omega)]

/-- A step stays inside the call unless it is the return from it. -/
theorem Inside.step (h : Inside k a m) :
    Inside k a m.step.machine ∨
      (m.completed? = some .ret ∧ m.step.machine.sp = k.val ∧ m.step.machine.pc = a) := by
  obtain ⟨hb, hd, ha⟩ := h
  have hbs := hb.step.bounded
  by_cases hcall : m.completed? = some .call
  · obtain ⟨j, target, ⟨hj, -⟩, hs⟩ := step_of_completed_call hb hcall
    have hne : j ≠ k := by
      rintro rfl
      omega
    rw [hs] at hbs ⊢
    refine .inl ⟨hbs, show (k.val : Int) < m.sp + 1 by omega, ?_⟩
    show (((m.stack.write j (.ofInt (m.pc + 2))).read k).toNat : Int) = a
    rw [Bank.read_write, if_neg hne, ha]
  by_cases hret : m.completed? = some .ret
  · obtain ⟨j, hj, hs⟩ := step_of_completed_ret hb hret
    by_cases hjk : j = k
    · subst hjk
      rw [hs]
      exact .inr ⟨hret, show m.sp - 1 = j.val by omega, ha⟩
    · have hv : j.val ≠ k.val := fun e => hjk (Fin.ext e)
      rw [hs] at hbs ⊢
      exact .inl ⟨hbs, show (k.val : Int) < m.sp - 1 by omega, ha⟩
  · obtain ⟨hsp, hst⟩ := stack_of_not_completed hb hcall hret
    exact .inl ⟨hbs, hsp ▸ hd, hst ▸ ha⟩

theorem Inside.applyAll (h : Inside k a m) {later : List Call}
    (hlater : ∀ c ∈ later, c.isSingle = true)
    (hsp : ∀ pre post, later = pre ++ post → (m.applyAll pre).sp ≠ k.val) :
    Inside k a (m.applyAll later) := by
  induction later generalizing m with
  | nil => exact h
  | cons c later ih =>
    have hin : Inside k a (m.apply c).machine := by
      have hback := hsp [c] later rfl
      have hc := hlater c List.mem_cons_self
      obtain ⟨hb, hd, ha⟩ := h
      cases c with
      | step =>
        rcases Inside.step ⟨hb, hd, ha⟩ with hs | ⟨-, hs, -⟩
        · exact hs
        · exact absurd hs hback
      | tick => exact ⟨hb.tick, hd, ha⟩
      | load p =>
        obtain ⟨memory, hm⟩ := m.machine_load p
        exact ⟨hb.load p, hm ▸ hd, hm ▸ ha⟩
      | setKey key down =>
        obtain ⟨keypad, hm⟩ := m.machine_setKey key down
        exact ⟨hb.setKey key down, hm ▸ hd, hm ▸ ha⟩
      | run cycles frame => cases hc
      | reset => cases hc
      | execute ins => cases hc
    rw [applyAll_cons]
    refine ih hin (fun d hd => hlater d (List.mem_cons_of_mem c hd)) fun pre post hpre => ?_
    have hback := hsp (c :: pre) post (congrArg (c :: ·) hpre)
    rwa [applyAll_cons] at hback

/-- The stack is faithful: after any operations it holds the return addresses of the calls that are
not over, a return goes to the latest of them and fails only if there is none, a call fails only if
there are sixteen, and the first step after a call that finds the stack as deep as before the call
is the return behind it. -/
theorem stack_holds_pendingCalls (seed : Nat) (ops : List Call)
    (hops : ∀ op ∈ ops, op.isPublic = true) :
    let m := (fresh seed).applyAll ops
    let calls := pendingCalls.applyAll (fresh seed) [] ops
    Holds m calls ∧
    (∀ w, m.Ready → m.Meets .ret w →
      (m.step.error = if calls = [] then some (.fault (.stackUnderflow m.pc)) else none) ∧
      ∀ a, calls.getLast? = some a → m.step.machine.pc = a) ∧
    (∀ w, m.Ready → m.Meets .call w →
      m.step.error = if calls.length = 16 then some (.fault (.stackOverflow m.pc)) else none) ∧
    (m.completed? = some .call → ∀ later, (∀ c ∈ later, c.isSingle = true) →
      (∀ pre post, later = pre ++ post → (m.step.machine.applyAll pre).sp ≠ m.sp) →
      let n := m.step.machine.applyAll later
      n.step.machine.sp = m.sp → n.completed? = some .ret ∧ n.step.machine.pc = m.pc + 2) := by
  intro m calls
  have hm : Reachable m := (reachable_fresh seed).applyAll ops hops
  have hb := hm.bounded
  have hh : Holds m calls := holds_applyAll seed hops
  have hlen := hh.sp
  refine ⟨hh, fun w hr hw => ?_, fun w hr hw => ?_, ?_⟩
  · have hempty : m.sp = 0 ↔ calls = [] := by
      rw [hlen, ← List.length_eq_zero_iff]
      omega
    have he : m.step.error =
        if calls = [] then some (.fault (.stackUnderflow m.pc)) else none := by
      simp only [hr.error_step_ret hb hw, hempty]
    refine ⟨he, fun a ha => ?_⟩
    have hne : calls ≠ [] := by
      rintro hnil
      rw [hnil] at ha
      cases ha
    rw [if_neg hne] at he
    obtain ⟨k, hk, hs⟩ := step_of_completed_ret hb (completed?_eq_some.2 ⟨hr, ⟨w, hw⟩, he⟩)
    rw [hh.slot_top hk] at ha
    rw [hs]
    exact Option.some_inj.1 ha
  · have hfull : m.sp = 16 ↔ calls.length = 16 := by omega
    simp only [hr.error_step_call hb hw, hfull]
  · intro hcall later hlater hsp n hback
    obtain ⟨k, -, ⟨hk, -⟩, -⟩ := step_of_completed_call hb hcall
    have hin : Inside k (m.pc + 2) n := by
      refine (inside_of_call hb hcall hk).applyAll hlater fun pre post hpre => ?_
      rw [← hk]
      exact hsp pre post hpre
    rcases hin.step with hs | ⟨hret, -, hpc⟩
    · have hd := hs.deeper
      omega
    · exact ⟨hret, hpc⟩

/-- A routine that calls another one, which waits for a key before it returns. -/
theorem stack_holds_pendingCalls_nested :
    let ops : List Call := [.load (.bytes
      [0x22, 0x06, 0x00, 0x00, 0x00, 0x00, 0x22, 0x0A, 0x00, 0xEE, 0xF0, 0x0A, 0x00, 0xEE])]
    let m := (fresh 0).applyAll ops
    let later : List Call := [.step, .step, .setKey 3 true, .step, .step]
    let n := m.step.machine.applyAll later
    ((∀ op ∈ ops, op.isPublic = true) ∧ m.completed? = some .call ∧
      (∀ c ∈ later, c.isSingle = true) ∧
      (∀ pre post, later = pre ++ post → (m.step.machine.applyAll pre).sp ≠ m.sp) ∧
      n.step.machine.sp = m.sp) ∧
    n.completed? = some .ret ∧ n.step.machine.pc = m.pc + 2 := by
  intro ops m later n
  have hops : ∀ op ∈ ops, op.isPublic = true := by decide
  have hlater : ∀ c ∈ later, c.isSingle = true := by decide
  obtain ⟨hcall, htake, hback⟩ : m.completed? = some .call ∧
      (∀ i < 6, (m.step.machine.applyAll (later.take i)).sp ≠ m.sp) ∧
      n.step.machine.sp = m.sp := by decide +kernel
  have hsp : ∀ pre post, later = pre ++ post → (m.step.machine.applyAll pre).sp ≠ m.sp := by
    intro pre post h
    have hlen : 5 = pre.length + post.length := by
      rw [← List.length_append, ← h]
      rfl
    have hpre : pre = later.take pre.length := by rw [h, List.take_left]
    rw [hpre]
    exact htake _ (by omega)
  have hall := stack_holds_pendingCalls 0 ops hops
  exact ⟨⟨hops, hcall, hlater, hsp, hback⟩, hall.2.2.2 hcall later hlater hsp hback⟩

end Machine

end Chip8
