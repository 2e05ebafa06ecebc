import Chip8.Proofs.Effects

/-!
# Arithmetic

Result and flag of an arithmetic instruction are two digits of one number: together they say what
the sum, the difference or the shifted value is, and neither can be anything else. The flag is
written behind the result, so where both go to the flag register the flag is what stays, computed
from the operands as they were.
-/

namespace Chip8

namespace Op

/-- The equation between operands, result and flag: the flag stands for a carry, for the absence of
a borrow, or for the bit that a shift pushes out. -/
def Balances (op : Op) (a b v f : Int) : Prop :=
  match op with
  | addReg => 0x100 * f + v = a + b
  | sub => v = a - b + 0x100 * (1 - f)
  | subFrom => v = b - a + 0x100 * (1 - f)
  | shiftRight => 2 * v + f = a
  | shiftLeft => 0x100 * f + v = 2 * a
  | _ => False

/-- Operations that put a combination of two values into the register `x` and set no flag. -/
def combines : Op → Bool
  | addByte | loadReg | or | and | xor => true
  | _ => false

/-- The value that such an operation comes to. -/
def Yields (op : Op) (a b : Nat) (kk : Int) (v : Nat) : Prop :=
  match op with
  | loadReg => v = b
  | or => v = a ||| b
  | and => v = a &&& b
  | xor => v = a ^^^ b
  | addByte => (v : Int) = (a + kk) % 0x100
  | _ => False

/-! ## The equations -/

/-- `_op_add_reg`: what does not fit the byte is in the carry. -/
theorem balances_addReg (a b : UInt8) :
    addReg.Balances a.toNat b.toNat (a + b).toNat
      (decide (0xFF < a.toNat + b.toNat)).toNat := by
  have ha := a.toNat_lt
  have hb := b.toNat_lt
  rw [Balances, UInt8.toNat_add]
  by_cases h : 0xFF < a.toNat + b.toNat <;> simp [h] <;> omega

/-- Taking `b` from `a` needs no borrow if `b` is not larger. -/
theorem borrow_eq (a b : UInt8) :
    ((a - b).toNat : Int) = a.toNat - b.toNat + 0x100 * (1 - (decide (b ≤ a)).toNat) := by
  have ha := a.toNat_lt
  have hb := b.toNat_lt
  rw [UInt8.toNat_sub]
  by_cases h : b.toNat ≤ a.toNat <;> simp [UInt8.le_iff_toNat_le, h] <;> omega

/-- `_op_shr`: the last bit goes to the flag. -/
theorem balances_shiftRight (a b : UInt8) :
    shiftRight.Balances a.toNat b.toNat (a >>> 1).toNat (decide (a % 2 = 1)).toNat := by
  have hbit : a % 2 = 1 ↔ a.toNat % 2 = 1 := by
    rw [← UInt8.toNat_inj, UInt8.toNat_mod]
    rfl
  have hhalf : (a >>> 1).toNat = a.toNat / 2 := by
    rw [UInt8.toNat_shiftRight]
    exact Nat.shiftRight_eq_div_pow a.toNat 1
  rw [Balances, hhalf]
  by_cases h : a.toNat % 2 = 1 <;> simp [hbit, h] <;> omega

/-- `_op_shl`: the first bit goes to the flag. -/
theorem balances_shiftLeft (a b : UInt8) :
    shiftLeft.Balances a.toNat b.toNat (a <<< 1).toNat (decide (0x80 ≤ a)).toNat := by
  have ha := a.toNat_lt
  have hbit : 0x80 ≤ a ↔ 0x80 ≤ a.toNat := UInt8.le_iff_toNat_le
  have hdouble : (a <<< 1).toNat = a.toNat * 2 % 0x100 := by
    rw [UInt8.toNat_shiftLeft]
    exact congrArg (· % 0x100) (Nat.shiftLeft_eq a.toNat 1)
  rw [Balances, hdouble]
  by_cases h : 0x80 ≤ a.toNat <;> simp [hbit, h] <;> omega

/-- Two digits are determined by their number. -/
theorem Balances.unique {op : Op} {a b v f v' f' : Int} (h : op.Balances a b v f)
    (h' : op.Balances a b v' f') (hv : 0 ≤ v ∧ v ≤ 0xFF) (hv' : 0 ≤ v' ∧ v' ≤ 0xFF)
    (hf : 0 ≤ f ∧ f ≤ 1) (hf' : 0 ≤ f' ∧ f' ≤ 1) : v = v' ∧ f = f' := by
  cases op <;> simp only [Balances] at h h' <;> omega

theorem toNat_add_ofInt (a : UInt8) (kk : Int) :
    ((a + .ofInt kk).toNat : Int) = (a.toNat + kk) % 0x100 := by
  have hk : (UInt8.ofInt kk).toNat = (kk % 0x100).toNat := by
    rw [UInt8.ofInt, UInt8.toNat_ofNat']
    omega
  rw [UInt8.toNat_add, hk]
  omega

theorem toNat_flag (on : Bool) : (if on then 1 else 0 : UInt8).toNat = on.toNat := by
  cases on <;> rfl

end Op

namespace Machine

variable {m : Machine} {ins : Instruction}

/-! ## The instructions -/

/-- A result with a flag is written in two steps, the flag last, and the two balance. -/
theorem execute_of_setsFlag (m : Machine) (h : ins.op.setsFlag = true) :
    ∃ v on, m.execute ins = .done ((m.setReg ins.x v).setFlag on) ∧
      ins.op.Balances (m.registers.read ins.x).toNat (m.registers.read ins.y).toNat v.toNat
        on.toNat := by
  obtain ⟨op, word, x, y, n, kk, nnn⟩ := ins
  cases op <;> cases h
  case addReg => exact ⟨_, _, rfl, Op.balances_addReg _ _⟩
  case sub => exact ⟨_, _, rfl, Op.borrow_eq _ _⟩
  case shiftRight => exact ⟨_, _, rfl, Op.balances_shiftRight _ _⟩
  case subFrom => exact ⟨_, _, rfl, Op.borrow_eq _ _⟩
  case shiftLeft => exact ⟨_, _, rfl, Op.balances_shiftLeft _ _⟩

theorem execute_of_combines (m : Machine) (h : ins.op.combines = true) :
    ∃ v, m.execute ins = .done (m.setReg ins.x v) ∧
      ins.op.Yields (m.registers.read ins.x).toNat (m.registers.read ins.y).toNat ins.kk
        v.toNat := by
  obtain ⟨op, word, x, y, n, kk, nnn⟩ := ins
  cases op <;> cases h
  case addByte => exact ⟨_, rfl, Op.toNat_add_ofInt _ _⟩
  case loadReg => exact ⟨_, rfl, rfl⟩
  case or => exact ⟨_, rfl, UInt8.toNat_or _ _⟩
  case and => exact ⟨_, rfl, UInt8.toNat_and _ _⟩
  case xor => exact ⟨_, rfl, UInt8.toNat_xor _ _⟩

/-- The flag stands in its register whatever `x` and `y` are, the result in `x` if the flag does not
go there, and both belong to the operands from before. -/
theorem registers_of_setsFlag (m : Machine) (h : ins.op.setsFlag = true) :
    ∃ (registers : Bank UInt8) (v f : Nat),
      m.execute ins = .done { m with registers } ∧
      (ins.op.Balances (m.registers.read ins.x).toNat (m.registers.read ins.y).toNat v f ∧
        v ≤ 0xFF ∧ f ≤ 1) ∧
      (registers.read flagRegister).toNat = f ∧
      (ins.x ≠ flagRegister → (registers.read ins.x).toNat = v) ∧
      ∀ k, k ≠ ins.x → k ≠ flagRegister → registers.read k = m.registers.read k := by
  obtain ⟨v, on, hx, hbal⟩ := m.execute_of_setsFlag h
  have hv := v.toNat_lt
  refine ⟨(m.registers.write ins.x v).write flagRegister (if on then 1 else 0), v.toNat, on.toNat,
    hx, ⟨hbal, by omega, Bool.toNat_le on⟩, ?_, fun hne => ?_, fun k hk hkf => ?_⟩
  · rw [Bank.read_write, if_pos rfl, Op.toNat_flag]
  · rw [Bank.read_write, if_neg (Ne.symm hne), Bank.read_write, if_pos rfl]
  · rw [Bank.read_write, if_neg (Ne.symm hkf), Bank.read_write, if_neg (Ne.symm hk)]

/-- A result without a flag goes to its register and nowhere else. -/
theorem registers_of_combines (m : Machine) (h : ins.op.combines = true) :
    ∃ registers : Bank UInt8,
      m.execute ins = .done { m with registers } ∧
      ins.op.Yields (m.registers.read ins.x).toNat (m.registers.read ins.y).toNat ins.kk
        (registers.read ins.x).toNat ∧
      ∀ k, k ≠ ins.x → registers.read k = m.registers.read k := by
  obtain ⟨v, hx, hv⟩ := m.execute_of_combines h
  refine ⟨m.registers.write ins.x v, hx, ?_, fun k hk => ?_⟩
  · rw [Bank.read_write, if_pos rfl]
    exact hv
  · rw [Bank.read_write, if_neg (Ne.symm hk)]

/-- What was added can be taken away again, and it needs a borrow exactly if there was a carry. -/
theorem sub_of_addReg (m : Machine) {back : Instruction} (hop : ins.op = .addReg)
    (hback : back.op = .sub) (hx : back.x = ins.x) (hy : back.y = ins.y) (hxy : ins.x ≠ ins.y)
    (hxf : ins.x ≠ flagRegister) (hyf : ins.y ≠ flagRegister) :
    let sum := (m.execute ins).machine
    let rest := (sum.execute back).machine
    rest.registers.read ins.x = m.registers.read ins.x ∧
      (rest.registers.read flagRegister).toNat =
        1 - (sum.registers.read flagRegister).toNat := by
  intro sum rest
  have hset : ins.op.setsFlag = true := by rw [hop]; rfl
  have hset' : back.op.setsFlag = true := by rw [hback]; rfl
  obtain ⟨registers, v, f, hsum, ⟨hbal, hv, hf⟩, hflag, hres, hkeep⟩ :=
    m.registers_of_setsFlag hset
  obtain ⟨registers', v', f', hrest, ⟨hbal', hv', hf'⟩, hflag', hres', -⟩ :=
    sum.registers_of_setsFlag hset'
  have ha := (m.registers.read ins.x).toNat_lt
  have hs : sum.registers = registers := by simp only [sum, hsum, Outcome.done]
  have hr : rest.registers = registers' := by simp only [rest, hrest, Outcome.done]
  rw [hback, hx, hy, hs, hres hxf, hkeep ins.y (Ne.symm hxy) hyf] at hbal'
  rw [hop] at hbal
  simp only [Op.Balances] at hbal
  have hundo : Op.sub.Balances v (m.registers.read ins.y).toNat (m.registers.read ins.x).toNat
      (1 - f) := by
    simp only [Op.Balances]
    omega
  obtain ⟨hva, hfa⟩ := hbal'.unique hundo (by omega) (by omega) (by omega) (by omega)
  rw [hr, hs, hflag', hflag]
  refine ⟨UInt8.toNat_inj.1 ?_, by omega⟩
  rw [hx] at hres'
  rw [hres' hxf]
  omega

/-- Arithmetic instructions, whichever of `x`, `y` and the flag register coincide. Where a flag is
set it is the carry, the absence of a borrow, or the bit shifted out, of the operands from before;
the result goes with it in one equation and is in `x` unless the flag replaces it there. The others
put their value into `x` and leave the flag register alone, unless it is `x`. Nothing else changes.
Hence subtraction undoes addition and inverts the flag. -/
theorem execute_arithmetic (m : Machine) (ins : Instruction) :
    let a := (m.registers.read ins.x).toNat
    let b := (m.registers.read ins.y).toNat
    (ins.op.setsFlag = true → ∃ (registers : Bank UInt8) (v f : Nat),
      m.execute ins = .done { m with registers } ∧
      (ins.op.Balances a b v f ∧ v ≤ 0xFF ∧ f ≤ 1) ∧
      (registers.read flagRegister).toNat = f ∧
      (ins.x ≠ flagRegister → (registers.read ins.x).toNat = v) ∧
      ∀ k, k ≠ ins.x → k ≠ flagRegister → registers.read k = m.registers.read k) ∧
    (ins.op.combines = true → ∃ registers : Bank UInt8,
      m.execute ins = .done { m with registers } ∧
      ins.op.Yields a b ins.kk (registers.read ins.x).toNat ∧
      ∀ k, k ≠ ins.x → registers.read k = m.registers.read k) ∧
    (ins.op = .addReg → ins.x ≠ ins.y → ins.x ≠ flagRegister → ins.y ≠ flagRegister →
      ∀ back : Instruction, back.op = .sub → back.x = ins.x → back.y = ins.y →
        let sum := (m.execute ins).machine
        let rest := (sum.execute back).machine
        rest.registers.read ins.x = m.registers.read ins.x ∧
          (rest.registers.read flagRegister).toNat =
            1 - (sum.registers.read flagRegister).toNat) :=
  ⟨m.registers_of_setsFlag, m.registers_of_combines, fun hop hxy hxf hyf _ hback hx hy =>
    m.sub_of_addReg hop hback hx hy hxy hxf hyf⟩

/-- The flag register doubled into itself, which leaves the carry, and a sum with a carry that is
taken back with a borrow. -/
theorem execute_arithmetic_aliased :
    let m : Machine := { fresh 0 with
      registers := (((fresh 0).registers.write flagRegister 200).write 1 100).write 2 200 }
    let double : Instruction := .ofWord .addReg 0x8FF4
    let add : Instruction := .ofWord .addReg 0x8124
    let back : Instruction := .ofWord .sub 0x8125
    let rest := ((m.execute add).machine.execute back).machine
    (double.op.setsFlag = true ∧ add.x ≠ add.y ∧ add.x ≠ flagRegister ∧ add.y ≠ flagRegister ∧
      back.x = add.x ∧ back.y = add.y) ∧
    (∃ registers : Bank UInt8, m.execute double = .done { m with registers } ∧
      (registers.read flagRegister).toNat = 1) ∧
    rest.registers.read 1 = 100 ∧ (rest.registers.read flagRegister).toNat = 0 := by
  intro m double add back rest
  have hnames : double.op.setsFlag = true ∧ add.x ≠ add.y ∧ add.x ≠ flagRegister ∧
      add.y ≠ flagRegister ∧ back.x = add.x ∧ back.y = add.y := by decide
  obtain ⟨hset, hxy, hxf, hyf, hx, hy⟩ := hnames
  obtain ⟨hfx, hfy⟩ : m.registers.read double.x = 200 ∧ m.registers.read double.y = 200 := by
    decide
  obtain ⟨registers, v, f, hdouble, ⟨hbal, hv, hf⟩, hflag, -⟩ :=
    (execute_arithmetic m double).1 hset
  have hsum : (0x100 : Int) * f + v = (200 : UInt8).toNat + (200 : UInt8).toNat := by
    rw [hfx, hfy] at hbal
    exact hbal
  obtain ⟨hrest, hborrow⟩ := (execute_arithmetic m add).2.2 rfl hxy hxf hyf back rfl hx hy
  have hcarry : ((m.execute add).machine.registers.read flagRegister).toNat = 1 := by decide
  have hsum' : (200 : UInt8).toNat = 200 := rfl
  refine ⟨⟨hset, hxy, hxf, hyf, hx, hy⟩, ⟨registers, hdouble, by omega⟩, hrest.trans ?_, ?_⟩
  · decide
  · rw [hborrow, hcarry]

end Machine

end Chip8
