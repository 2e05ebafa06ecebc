import Chip8.Instruction.Decode
import Chip8.Proofs.Execution
import Chip8.Proofs.Sprites

/-!
# Transfers

What an instruction moves between memory and the rest of the machine: the bytes that it stores, the
registers that it loads, the rows that it draws. Each of them begins at the index register and gets
as far as memory does, and `Overlaid`, `Reloaded` and `Redrawn` say for every cell, register and
pixel what has become of it.
-/

namespace Chip8

namespace Memory

@[simp] theorem store_nil (m : Memory) (a : Int) : m.store a [] = (m, none) := rfl

@[simp] theorem load_zero (m : Memory) (a : Int) : m.load a 0 = ([], none) := rfl

theorem store_of_outside (m : Memory) {a : Int} (ha : a < 0 ∨ 4096 ≤ a) (bs : List UInt8) :
    (m.store a bs).1 = m := by
  cases bs with
  | nil => rfl
  | cons b bs => rw [store, cell?_eq_none.2 ha]

theorem load_of_outside (m : Memory) {a : Int} (ha : 4096 ≤ a) (n : Nat) : (m.load a n).1 = [] := by
  cases n with
  | zero => rfl
  | succ n => rw [load, cell?_eq_none.2 (.inr ha)]

theorem length_load_le (m : Memory) (a : Int) (n : Nat) : (m.load a n).1.length ≤ n := by
  induction n generalizing a with
  | zero => exact Nat.le_refl 0
  | succ n ih =>
    rw [load]
    split
    · exact Nat.zero_le _
    · exact Nat.succ_le_succ (ih _)

theorem length_load_of_fits (m : Memory) {a : Int} {n : Nat} (h : stop a n = none) :
    (m.load a n).1.length = n := by
  induction n generalizing a with
  | zero => rfl
  | succ n ih =>
    rw [load]
    cases hc : cell? a with
    | none =>
      rw [stop_of_cell?_eq_none hc] at h
      cases h
    | some k =>
      rw [stop_succ hc] at h
      exact congrArg (· + 1) (ih h)

/-- From `a` on the new memory holds the bytes, as far as it goes; all else is as it was. -/
def Overlaid (old new : Memory) (a : Int) (bs : List UInt8) : Prop :=
  (∀ i b, bs[i]? = some b → a + (i : Nat) < 4096 → new.read? (a + i) = some b) ∧
    ∀ c, (∀ i < bs.length, c ≠ a + (i : Nat)) → new.read? c = old.read? c

theorem overlaid_store (m : Memory) {a : Int} (ha : 0 ≤ a) (bs : List UInt8) :
    Overlaid m (m.store a bs).1 a bs := by
  constructor
  · intro i b hb hi
    have hl := (List.getElem?_eq_some_iff.1 hb).1
    rw [read?_store m ha, if_pos (by omega), show (a + i - a).toNat = i by omega, hb]
  · intro c hc
    rw [read?_store m ha, if_neg]
    intro h
    exact hc (c - a).toNat (by omega) (by omega)

end Memory

@[simp] theorem Bitmap.draw_nil (d : Bitmap) (x y : Nat) : d.draw x y [] = (d, false) := rfl

@[simp] theorem Bank.overwrite_nil {α : Type} (b : Bank α) : b.overwrite [] = b := by
  refine Bank.ext fun k => ?_
  rw [Bank.read_overwrite, List.getD_nil]

/-- The number of registers that an instruction loads, from the first one on. -/
def Instruction.loads (ins : Instruction) : Nat :=
  match ins.op with
  | .loadRegs => ins.x + 1
  | _ => 0

def Instruction.rows (ins : Instruction) : Nat :=
  match ins.op with
  | .draw => ins.n.toNat
  | _ => 0

theorem Instruction.rows_ofWord_lt (op : Op) (w : Nat) : (ofWord op w).rows < 0x10 := by
  have h : w % 0x10 < 0x10 := Nat.mod_lt w (by decide)
  unfold rows
  split
  · exact h
  · decide

namespace Machine

variable {m : Machine}

def stores (m : Machine) (ins : Instruction) : List UInt8 :=
  match ins.op with
  | .storeDecimal => decimalDigits (m.registers.read ins.x)
  | .storeRegs => m.registers.toList.take (ins.x + 1)
  | _ => []

/-- What an instruction stores is all that it writes to memory. -/
theorem memory_execute (m : Machine) (ins : Instruction) :
    (m.execute ins).machine.memory = (m.memory.store m.index (m.stores ins)).1 := by
  obtain ⟨op, word, x, y, n, kk, nnn⟩ := ins
  cases op with
  | storeDecimal =>
    exact congrArg (·.machine.memory) (m.storeBytes_eq (decimalDigits (m.registers.read x)))
  | storeRegs =>
    exact congrArg (·.machine.memory) (m.storeBytes_eq (m.registers.toList.take (x + 1)))
  | call =>
    obtain ⟨sp, stack, pc, hm⟩ := m.machine_call nnn
    exact (congrArg Machine.memory hm :)
  | ret =>
    obtain ⟨sp, pc, hm⟩ := m.machine_ret
    exact (congrArg Machine.memory hm :)
  | skipEqByte | skipNeByte | skipEqReg | skipNeReg =>
    obtain ⟨pc, hm⟩ := m.machine_skipIf _
    exact (congrArg Machine.memory hm :)
  | skipPressed | skipReleased =>
    obtain ⟨pc, hm⟩ := m.machine_skipIfKey _ _
    exact (congrArg Machine.memory hm :)
  | waitKey =>
    obtain ⟨registers, waiting, keyRegister, pc, hm⟩ := m.machine_waitKey x
    exact (congrArg Machine.memory hm :)
  | draw =>
    obtain ⟨registers, display, hm⟩ := m.machine_drawSprite _ _ _
    exact (congrArg Machine.memory hm :)
  | loadRegs => exact congrArg (·.machine.memory) (m.loadRegs_eq x)
  | _ => rfl

/-- The instruction writes the cell at `a`: it stores from the index register on, as far as memory
goes. -/
def WritesCell (m : Machine) (ins : Instruction) (a : Int) : Prop :=
  0 ≤ m.index ∧ m.index ≤ a ∧ a < m.index + (m.stores ins).length ∧ a < 4096

instance (m : Machine) (ins : Instruction) (a : Int) : Decidable (m.WritesCell ins a) :=
  inferInstanceAs (Decidable (_ ∧ _ ∧ _ ∧ _))

theorem read?_execute_of_not_writesCell {ins : Instruction} {a : Int}
    (h : ¬ m.WritesCell ins a) :
    (m.execute ins).machine.memory.read? a = m.memory.read? a := by
  rw [memory_execute]
  by_cases h0 : 0 ≤ m.index
  · rw [Memory.read?_store _ h0, if_neg]
    rintro ⟨hl, hr, hs⟩
    exact h ⟨h0, hl, hr, hs⟩
  · rw [Memory.store_of_outside _ (.inl (Int.not_le.1 h0))]

/-- The first `n` registers hold the cells from the index register on, as far as memory goes; the
others are as they were. -/
def Reloaded (m : Machine) (new : Bank UInt8) (n : Nat) : Prop :=
  ∀ k : Nibble,
    if k.val < n ∧ m.index + k.val < 4096 then
      m.memory.read? (m.index + k.val) = some (new.read k)
    else new.read k = m.registers.read k

theorem reloaded_load (h : 0 ≤ m.index) (n : Nat) :
    m.Reloaded (m.registers.overwrite (m.memory.load m.index n).1) n := by
  intro k
  rw [Bank.read_overwrite, List.getD_eq_getElem?_getD, Memory.getElem?_load m.memory h]
  split
  · next hk =>
    obtain ⟨b, hb⟩ : ∃ b, m.memory.read? (m.index + k.val) = some b := by
      rw [← Option.ne_none_iff_exists', ne_eq, Memory.read?_eq_none]
      omega
    rw [if_pos hk.1, hb]
    rfl
  · next hk =>
    split
    · next hn => rw [Memory.read?_eq_none.2 (by omega)]; rfl
    · rfl

/-- The pixels flipped are those under the bits of the first `n` rows from the index register on, as
far as memory goes, with the corner of the sprite at `(x, y)`. -/
def Redrawn (m : Machine) (new : Bitmap) (x y n : Nat) : Prop :=
  ∀ col row, new.get col row ≠ m.display.get col row ↔
    ∃ r c b, r < n ∧ m.index + (r : Nat) < 4096 ∧ m.memory.read? (m.index + r) = some b ∧ c < 8 ∧
      b.toNat.testBit (7 - c) = true ∧ (x + c) % 64 = col.val ∧ (y + r) % 32 = row.val

/-- Rows that could be read are drawn, the others are not. -/
theorem redrawn_draw (h : 0 ≤ m.index) {n : Nat} (hn : n ≤ 32) (x y : Nat) :
    m.Redrawn (m.display.draw x y (m.memory.load m.index n).1).1 x y n := by
  intro col row
  rw [Bitmap.get_draw_ne (Nat.le_trans (Memory.length_load_le _ _ n) hn)]
  constructor
  · rintro ⟨r, c, b, hb, hc⟩
    rw [Memory.getElem?_load m.memory h] at hb
    split at hb
    · next hr =>
      have hlt : ¬ (m.index + (r : Int) < 0 ∨ 4096 ≤ m.index + (r : Int)) := by
        rw [← Memory.read?_eq_none (m := m.memory), hb]
        exact Option.some_ne_none b
      exact ⟨r, c, b, hr, by omega, hb, hc⟩
    · cases hb
  · rintro ⟨r, c, b, hr, -, hb, hc⟩
    exact ⟨r, c, b, by rw [Memory.getElem?_load m.memory h, if_pos hr, hb], hc⟩

/-! ## Failed instructions -/

/-- The machine with the transfers of an instruction done as far as memory goes. -/
def transferring (m : Machine) (ins : Instruction) : Machine :=
  { m with
    memory := (m.memory.store m.index (m.stores ins)).1
    registers := m.registers.overwrite (m.memory.load m.index ins.loads).1
    display := (m.display.draw (m.registers.read ins.x).toNat (m.registers.read ins.y).toNat
      (m.memory.load m.index ins.rows).1).1 }

theorem transferring_of_op {ins : Instruction} (h : ins.op.transfers = false) :
    m.transferring ins = m := by
  obtain ⟨op, word, x, y, n, kk, nnn⟩ := ins
  cases op <;> cases h <;>
    simp [transferring, stores, Instruction.loads, Instruction.rows]

theorem transferring_of_outside (h : 4096 ≤ m.index) (ins : Instruction) :
    m.transferring ins = m := by
  simp [transferring, Memory.store_of_outside _ (.inr h), Memory.load_of_outside _ h]

/-- An instruction that fails in a transfer has done it up to there, and nothing else. -/
theorem machine_execute_of_transfers {ins : Instruction} (ht : ins.op.transfers = true)
    (he : (m.execute ins).error ≠ none) : (m.execute ins).machine = m.transferring ins := by
  obtain ⟨op, word, x, y, n, kk, nnn⟩ := ins
  cases op <;> cases ht
  case storeDecimal =>
    refine (congrArg Outcome.machine (storeBytes_eq m _)).trans ?_
    simp [transferred, transferring, stores, Instruction.loads, Instruction.rows]
  case storeRegs =>
    refine (congrArg Outcome.machine (storeBytes_eq m _)).trans ?_
    simp [transferred, transferring, stores, Instruction.loads, Instruction.rows]
  case loadRegs =>
    refine (congrArg Outcome.machine (loadRegs_eq m x)).trans ?_
    simp [transferred, transferring, stores, Instruction.loads, Instruction.rows]
  case draw =>
    have hs : Memory.stop m.index n.toNat ≠ none := by
      intro hn
      rw [error_execute_of_transfers rfl] at he
      exact he (congrArg _ hn)
    obtain ⟨a, ha⟩ := Option.ne_none_iff_exists'.1 hs
    refine (congrArg Outcome.machine (drawSprite_of_stop ha _ _)).trans ?_
    simp [transferred, transferring, stores, Instruction.loads, Instruction.rows]

end Machine

end Chip8
