import Chip8.Instruction.Decode
import Chip8.Instruction.Format
import Chip8.Memory

/-!
# Decoding by the opcode table

A word in memory has 16 bits and is there unless the address is one of the last or none. The decoder
goes digit by digit; what it accepts is told by the opcode table: a word has an operation exactly if
it has the fixed digits of the operation's format.
-/

namespace Chip8

namespace Memory

theorem word?_eq_some {m : Memory} {a : Int} {w : Nat} :
    m.word? a = some w ↔ ∃ high low, m.read? a = some high ∧ m.read? (a + 1) = some low ∧
      0x100 * high.toNat + low.toNat = w := by
  unfold word?
  cases m.read? a <;> cases m.read? (a + 1) <;> simp

/-- `_fetch` finds no word outside memory, and none at its last cell. -/
theorem word?_eq_none {m : Memory} {a : Int} : m.word? a = none ↔ a < 0 ∨ 4095 ≤ a := by
  have hw : m.word? a = none ↔ m.read? a = none ∨ m.read? (a + 1) = none := by
    unfold word?
    cases m.read? a <;> cases m.read? (a + 1) <;> simp
  rw [hw, read?_eq_none, read?_eq_none]
  omega

theorem bounds_of_word? {m : Memory} {a : Int} {w : Nat} (h : m.word? a = some w) :
    0 ≤ a ∧ a ≤ 4094 := by
  have hn : ¬ (a < 0 ∨ 4095 ≤ a) := by
    rw [← word?_eq_none (m := m), h]
    exact Option.some_ne_none w
  omega

theorem word?_lt {m : Memory} {a : Int} {w : Nat} (h : m.word? a = some w) : w < 0x10000 := by
  obtain ⟨high, low, -, -, rfl⟩ := word?_eq_some.1 h
  have hh := high.toNat_lt
  have hl := low.toNat_lt
  omega

end Memory

/-! ## Operations -/

namespace Op

theorem ofSystem?_eq_some {u : Nat} {op : Op} :
    ofSystem? u = some op ↔ op.format = .exact u := by
  constructor
  · unfold ofSystem?
    split <;> rintro ⟨⟩ <;> rfl
  · cases op <;> rintro ⟨⟩ <;> rfl

theorem ofArithmetic?_eq_some {d : Nat} {op : Op} :
    ofArithmetic? d = some op ↔ op.format = .regReg 0x8 d := by
  constructor
  · unfold ofArithmetic?
    split <;> rintro ⟨⟩ <;> rfl
  · cases op <;> rintro ⟨⟩ <;> rfl

theorem ofKeypad?_eq_some {d : Nat} {op : Op} :
    ofKeypad? d = some op ↔ op.format = .reg 0xE d := by
  constructor
  · unfold ofKeypad?
    split <;> rintro ⟨⟩ <;> rfl
  · cases op <;> rintro ⟨⟩ <;> rfl

theorem ofTransfer?_eq_some {d : Nat} {op : Op} :
    ofTransfer? d = some op ↔ op.format = .reg 0xF d := by
  constructor
  · unfold ofTransfer?
    split <;> rintro ⟨⟩ <;> rfl
  · cases op <;> rintro ⟨⟩ <;> rfl

theorem matches_of_ofWord? {u : Nat} {op : Op} (h : ofWord? u = some op) : op.format.Matches u := by
  unfold ofWord? at h
  split at h
  -- groups that look at further digits; anywhere else the first digit is all there is to match
  case h_1 => rw [ofSystem?_eq_some.1 h]; rfl
  case h_9 hu => rw [ofArithmetic?_eq_some.1 h]; exact ⟨hu, rfl⟩
  case h_15 hu => rw [ofKeypad?_eq_some.1 h]; exact ⟨hu, rfl⟩
  case h_16 hu => rw [ofTransfer?_eq_some.1 h]; exact ⟨hu, rfl⟩
  case h_6 hu =>
    split at h <;> cases h
    exact ⟨hu, by assumption⟩
  case h_10 hu =>
    split at h <;> cases h
    exact ⟨hu, by assumption⟩
  all_goals cases h
  all_goals assumption

theorem ofWord?_of_matches {u : Nat} {op : Op} (h : op.format.Matches u) : ofWord? u = some op := by
  cases op <;> simp only [format, Format.Matches] at h <;> simp [ofWord?, h] <;> rfl

/-- The decoder and the opcode table agree. -/
theorem ofWord?_eq_some {u : Nat} {op : Op} : ofWord? u = some op ↔ op.format.Matches u :=
  ⟨matches_of_ofWord?, ofWord?_of_matches⟩

theorem ofWord?_eq_none {u : Nat} : ofWord? u = none ↔ ∀ op : Op, ¬ op.format.Matches u := by
  simp only [Option.eq_none_iff_forall_ne_some, ne_eq, ofWord?_eq_some]

end Op

/-- `decode` on the words of memory. -/
theorem decode_natCast {u : Nat} (hu : u < 0x10000) :
    decode u = match Op.ofWord? u with
      | some op => .ok (.ofWord op u)
      | none => .error (.unknownInstruction u none) := by
  have h : ((u : Int) % 0x10000).toNat = u := by omega
  cases ho : Op.ofWord? u <;> simp only [decode, h, ho]

namespace Instruction

variable (op : Op) (u : Nat)

theorem nnn_ofWord_nonneg : 0 ≤ (ofWord op u).nnn := Int.natCast_nonneg _

theorem nnn_ofWord_lt : (ofWord op u).nnn < 0x1000 := by
  have h : u % 0x1000 < 0x1000 := Nat.mod_lt u (by decide)
  simp only [ofWord]
  omega

end Instruction

end Chip8
