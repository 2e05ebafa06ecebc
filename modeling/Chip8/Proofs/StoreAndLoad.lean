import Chip8.Proofs.WriteSets

/-!
# Storing and loading registers

Registers that are stored in memory come back when they are loaded, whatever the machine does in
between, as long as it leaves their cells alone and points the index register at them again. The
decimal digits of a register are loaded the same way, also over the register that they come from.
-/

namespace Chip8

/-- Operations that execute one instruction at most and change memory by nothing else. -/
def Call.isElementary : Call → Bool
  | .step | .tick | .setKey _ _ | .execute _ => true
  | .load _ | .run _ _ | .reset => false

namespace Machine

variable {m n : Machine} {c : Call} {ins : Instruction} {v : Nibble → UInt8} {x : Nibble}

/-- The operation puts the bytes `v` up to the `x`th into memory from the index register on, and
changes neither another cell nor any register. -/
structure Saves (m : Machine) (c : Call) (v : Nibble → UInt8) (x : Nibble) : Prop where
  error : (m.apply c).error = none
  index : (m.apply c).machine.index = m.index
  registers : (m.apply c).machine.registers = m.registers
  cells : ∀ k ≤ x, (m.apply c).machine.memory.read? (m.index + k.val) = some (v k)
  others : ∀ a, a < m.index ∨ m.index + x.val < a →
    (m.apply c).machine.memory.read? a = m.memory.read? a

/-- The operation puts the bytes `v` up to the `x`th into the registers, and changes neither another
register nor the index register nor memory. -/
structure Restores (m : Machine) (c : Call) (v : Nibble → UInt8) (x : Nibble) : Prop where
  error : (m.apply c).error = none
  index : (m.apply c).machine.index = m.index
  memory : (m.apply c).machine.memory = m.memory
  registers : ∀ k, (m.apply c).machine.registers.read k =
    if k ≤ x then v k else m.registers.read k

/-! ## Storing -/

theorem execute_of_stores (hop : ins.op = .storeDecimal ∨ ins.op = .storeRegs) (m : Machine) :
    m.execute ins = m.storeBytes (m.stores ins) := by
  obtain ⟨op, word, x, y, n, kk, nnn⟩ := ins
  rcases hop with hop | hop <;> cases hop <;> rfl

theorem getElem?_stores_of_storeRegs (h : ins.op = .storeRegs) (m : Machine) {k : Nibble}
    (hk : k ≤ ins.x) : (m.stores ins)[k.val]? = some (m.registers.read k) := by
  have hk' := Fin.le_def.1 hk
  simp only [stores, h]
  rw [List.getElem?_take_of_lt (by omega), Bank.getElem?_toList]

/-- An instruction that stores the bytes `v` saves them if they fit into memory. -/
theorem saves_of_stores (hc : m.executed? c = some ins)
    (hop : ins.op = .storeDecimal ∨ ins.op = .storeRegs) (h0 : 0 ≤ m.index)
    (hlen : (m.stores ins).length = x.val + 1) (hfit : m.index + x.val ≤ 4095)
    (hv : ∀ k ≤ x, (m.stores ins)[k.val]? = some (v k)) : m.Saves c v x := by
  obtain ⟨pc, crashed, cycles, he, hm⟩ := apply_of_executed? hc
  have hs : Memory.stop m.index (m.stores ins).length = none :=
    (Memory.stop_eq_none h0).2 (.inr (by omega))
  have hx : { m with pc }.execute ins =
      .done { m with memory := (m.memory.store m.index (m.stores ins)).1, pc } := by
    refine (execute_of_stores hop _).trans ((storeBytes_eq _ _).trans ?_)
    exact congrArg (transferred _) hs
  rw [hx] at he hm
  obtain ⟨hput, hkeep⟩ := m.memory.overlaid_store h0 (m.stores ins)
  refine ⟨he, ?_, ?_, fun k hk => ?_, fun a ha => ?_⟩
  · rw [hm]
    rfl
  · rw [hm]
    rfl
  · have hk' := Fin.le_def.1 hk
    rw [hm]
    exact hput k.val (v k) (hv k hk) (by omega)
  · rw [hm]
    exact hkeep a fun i hi => by omega

theorem saves_of_storeRegs (hc : m.executed? c = some ins) (hop : ins.op = .storeRegs)
    (h0 : 0 ≤ m.index) (hfit : m.index + ins.x.val ≤ 4095) :
    m.Saves c m.registers.read ins.x :=
  saves_of_stores hc (.inr hop) h0 (length_stores_of_storeRegs hop) hfit fun _ hk =>
    getElem?_stores_of_storeRegs hop m hk

/-- `_op_ld_b` stores the decimal digits of the byte, hundreds first. -/
theorem decimalDigits_spec (b : UInt8) :
    ∃ d : Nibble → UInt8, (∀ k ≤ 2, d k ≤ 9) ∧
      100 * (d 0).toNat + 10 * (d 1).toNat + (d 2).toNat = b.toNat ∧
      ∀ k ≤ 2, (decimalDigits b)[k.val]? = some (d k) := by
  have hk : ∀ k : Nibble, k ≤ 2 → k = 0 ∨ k = 1 ∨ k = 2 := by decide
  have hb := b.toNat_lt
  have h0 : (b / 100).toNat = b.toNat / 100 := UInt8.toNat_div b 100
  have h1 : (b / 10 % 10).toNat = b.toNat / 10 % 10 := by
    rw [UInt8.toNat_mod, UInt8.toNat_div]
    rfl
  have h2 : (b % 10).toNat = b.toNat % 10 := UInt8.toNat_mod b 10
  refine ⟨fun k => (decimalDigits b).getD k.val 0, fun k hk' => ?_, ?_, fun k hk' => ?_⟩
  · rw [UInt8.le_iff_toNat_le]
    rcases hk k hk' with rfl | rfl | rfl
    · show (b / 100).toNat ≤ 9
      omega
    · show (b / 10 % 10).toNat ≤ 9
      omega
    · show (b % 10).toNat ≤ 9
      omega
  · show 100 * (b / 100).toNat + 10 * (b / 10 % 10).toNat + (b % 10).toNat = b.toNat
    omega
  · rcases hk k hk' with rfl | rfl | rfl <;> rfl

/-! ## Loading -/

/-- An instruction that loads registers restores what lies in memory. -/
theorem restores_of_loadRegs (hc : n.executed? c = some ins) (hop : ins.op = .loadRegs)
    (h0 : 0 ≤ n.index) (hfit : n.index + ins.x.val ≤ 4095)
    (hv : ∀ k ≤ ins.x, n.memory.read? (n.index + k.val) = some (v k)) :
    n.Restores c v ins.x := by
  obtain ⟨pc, crashed, cycles, he, hm⟩ := apply_of_executed? hc
  have hs : Memory.stop n.index (ins.x + 1) = none :=
    (Memory.stop_eq_none h0).2 (.inr (by omega))
  have hx : { n with pc }.execute ins = .done
      { n with registers := n.registers.overwrite (n.memory.load n.index (ins.x + 1)).1, pc } := by
    obtain ⟨op, word, x, y, n, kk, nnn⟩ := ins
    cases hop
    exact (loadRegs_eq _ x).trans (congrArg (transferred _) hs)
  have hreload := reloaded_load h0 (ins.x + 1)
  -- what follows needs no more of the new registers than `hreload` says
  generalize n.registers.overwrite (n.memory.load n.index (ins.x + 1)).1 = registers at hx hreload
  rw [hx] at he hm
  refine ⟨he, ?_, ?_, fun k => ?_⟩
  · rw [hm]
    rfl
  · rw [hm]
    rfl
  · have hk := hreload k
    rw [hm]
    split at hk
    · next hlt =>
      have hle : k ≤ ins.x := Fin.le_def.2 (by omega)
      rw [hv k hle, Option.some_inj] at hk
      rw [if_pos hle]
      exact hk.symm
    · next hlt =>
      have hle : ¬ k ≤ ins.x := by
        rw [Fin.le_def]
        omega
      rw [if_neg hle]
      exact hk

/-! ## In between -/

/-- An operation changes the cells that its instruction writes, and no other. -/
theorem read?_apply_of_elementary (hs : c.isElementary = true) {a : Int}
    (h : ∀ ins, m.executed? c = some ins → ¬ m.WritesCell ins a) :
    (m.apply c).machine.memory.read? a = m.memory.read? a := by
  cases hx : m.executed? c with
  | some ins =>
    obtain ⟨pc, crashed, cycles, -, hm⟩ := apply_of_executed? hx
    rw [hm]
    exact read?_execute_of_not_writesCell (m := { m with pc }) (h ins hx)
  | none =>
    cases c with
    | step =>
      rcases machine_step_of_next?_eq_none hx with hm | ⟨pc, crashed, hm⟩
      · obtain ⟨registers, waiting, pc, cycles, hp, -⟩ := m.machine_poll
        rw [apply, hm, hp]
      · rw [apply, hm]
    | tick => rfl
    | setKey key down =>
      obtain ⟨keypad, hm⟩ := m.machine_setKey key down
      rw [apply, hm]
    | execute ins => cases hx
    | load | run | reset => cases hs

theorem read?_applyAll_of_elementary {cs : List Call} (hs : ∀ c ∈ cs, c.isElementary = true)
    {a : Int} (h : m.Throughout (fun n ins => ¬ n.WritesCell ins a) cs) :
    (m.applyAll cs).memory.read? a = m.memory.read? a := by
  induction cs generalizing m with
  | nil => rfl
  | cons c cs ih =>
    obtain ⟨hc, hcs⟩ := h
    have htail := ih (fun d hd => hs d (List.mem_cons_of_mem c hd)) hcs
    exact htail.trans (read?_apply_of_elementary (hs c List.mem_cons_self) hc)

/-- Registers that an instruction stores are as they were when they are loaded again, from the cells
that they were stored in, which nothing has written meanwhile; of the cells and registers that are
not named in the instructions none is changed. An instruction that stores decimal digits leaves the
digits of its register, which are loaded alike. -/
theorem restores_of_saves (h0 : 0 ≤ m.index) (hc : m.executed? c = some ins) :
    (ins.op = .storeRegs → m.index + ins.x.val ≤ 4095 →
      m.Saves c m.registers.read ins.x ∧
      ∀ between, (∀ e ∈ between, e.isElementary = true) →
        (∀ k ≤ ins.x, (m.apply c).machine.Throughout
          (fun n other => ¬ n.WritesCell other (m.index + k.val)) between) →
        let later := (m.apply c).machine.applyAll between
        later.index = m.index → ∀ d back, later.executed? d = some back → back.op = .loadRegs →
          back.x ≤ ins.x → later.Restores d m.registers.read back.x) ∧
    (ins.op = .storeDecimal → m.index + 2 ≤ 4095 →
      ∃ digits : Nibble → UInt8, (∀ k ≤ 2, digits k ≤ 9) ∧
        100 * (digits 0).toNat + 10 * (digits 1).toNat + (digits 2).toNat =
          (m.registers.read ins.x).toNat ∧
        m.Saves c digits 2 ∧
        ∀ d back, (m.apply c).machine.executed? d = some back → back.op = .loadRegs →
          back.x = 2 → (m.apply c).machine.Restores d digits 2) := by
  constructor
  · intro hop hfit
    have hsave := saves_of_storeRegs hc hop h0 hfit
    refine ⟨hsave, ?_⟩
    intro between helementary hspare later hi d back hd hback hx
    have hx' := Fin.le_def.1 hx
    refine restores_of_loadRegs hd hback (by omega) (by omega) fun k hk => ?_
    have hk' := Fin.le_trans hk hx
    rw [hi]
    exact (read?_applyAll_of_elementary helementary (hspare k hk')).trans (hsave.cells k hk')
  · intro hop hfit
    obtain ⟨digits, hle, hsum, hdigits⟩ := decimalDigits_spec (m.registers.read ins.x)
    have hv : ∀ k : Nibble, k ≤ 2 → (m.stores ins)[k.val]? = some (digits k) := by
      simpa only [stores, hop] using hdigits
    have hsave : m.Saves c digits 2 :=
      saves_of_stores hc (.inl hop) h0 (length_stores_of_storeDecimal hop) hfit hv
    refine ⟨digits, hle, hsum, hsave, fun d back hd hback hx => ?_⟩
    have hi := hsave.index
    rw [← hx]
    refine restores_of_loadRegs hd hback (by omega) (by rw [hx, hi]; exact hfit) fun k hk => ?_
    rw [hi]
    exact hsave.cells k (hx ▸ hk)

/-- Two registers, of which one is cleared when its digits have gone behind their cells; then digits
of which one goes to the register that they come from. -/
theorem restores_of_saves_interrupted :
    let m := { fresh 0 with index := 0x300, registers := (fresh 0).registers.write 1 0xFE }
    let store : Call := .execute (.ofWord .storeRegs 0xF155)
    let between : List Call := [.execute (.ofWord .loadIndex 0xA302),
      .execute (.ofWord .storeDecimal 0xF133), .execute (.ofWord .sub 0x8115), .tick, .step,
      .execute (.ofWord .loadIndex 0xA300)]
    let later := (m.apply store).machine.applyAll between
    let back := (later.apply (.execute (.ofWord .loadRegs 0xF165))).machine
    let digits := m.apply (.execute (.ofWord .storeDecimal 0xF133))
    let three := (digits.machine.apply (.execute (.ofWord .loadRegs 0xF265))).machine.registers
    (0 ≤ m.index ∧ (∀ k ≤ (1 : Nibble), (m.apply store).machine.Throughout
        (fun n other => ¬ n.WritesCell other (m.index + k.val)) between) ∧
      later.index = m.index) ∧
    later.registers.read 1 = 0 ∧ back.registers.read 1 = 0xFE ∧ back.memory = later.memory ∧
      100 * (three.read 0).toNat + 10 * (three.read 1).toNat + (three.read 2).toNat = 254 := by
  intro m store between later back digits three
  have h0 : 0 ≤ m.index := by decide
  obtain ⟨hspare, hi, hcleared⟩ :
      (∀ k ≤ (1 : Nibble), (m.apply store).machine.Throughout
        (fun n other => ¬ n.WritesCell other (m.index + k.val)) between) ∧
      later.index = m.index ∧ later.registers.read 1 = 0 := by decide +kernel
  have hback := ((restores_of_saves (c := store) h0 rfl).1 rfl (by decide)).2 between (by decide)
    hspare hi (.execute (.ofWord .loadRegs 0xF165)) _ rfl rfl (by decide)
  obtain ⟨d, -, hsum, -, hload⟩ :=
    (restores_of_saves (c := .execute (.ofWord .storeDecimal 0xF133)) h0 rfl).2 rfl (by decide)
  have hthree := (hload (.execute (.ofWord .loadRegs 0xF265)) _ rfl rfl rfl).registers
  have hr0 : three.read 0 = d 0 := hthree 0
  have hr1 : three.read 1 = d 1 := hthree 1
  have hr2 : three.read 2 = d 2 := hthree 2
  refine ⟨⟨h0, hspare, hi⟩, hcleared, hback.registers 1, hback.memory, ?_⟩
  rw [hr0, hr1, hr2]
  exact hsum

end Machine

end Chip8
