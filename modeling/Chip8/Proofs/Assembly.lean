import Chip8.Proofs.Decoding

/-!
# Decoding and assembling

The opcode table read both ways. A word is taken apart into the digits below its first, and decodes
exactly if it has the fixed digits of a format, which is then the only one; a word that is put
together by a format decodes to the operation and operands that went into it.
-/

namespace Chip8

namespace Instruction

/-- The operands are the digits of the word `u` below its first. -/
structure Digits (ins : Instruction) (u : Nat) : Prop where
  word : ins.word = u
  below_first : (u : Int) = 0x1000 * (u / 0x1000 : Nat) + ins.nnn
  below_second : ins.nnn = 0x100 * ins.x + ins.kk
  below_third : ins.kk = 0x10 * ins.y + ins.n
  last_nonneg : 0 ≤ ins.n
  last_lt : ins.n < 0x10

theorem digits_ofWord (op : Op) (u : Nat) : (ofWord op u).Digits u := by
  constructor <;> simp only [ofWord, digit, Fin.val_ofNat] <;> omega

/-- The digits leave no choice. -/
theorem Digits.eq_ofWord {ins : Instruction} {u : Nat} (h : ins.Digits u) :
    ins = ofWord ins.op u := by
  obtain ⟨op, word, x, y, n, kk, nnn⟩ := ins
  obtain ⟨h1, h2, h3, h4, h5, h6⟩ := h
  have hx : x = digit u 0x100 := by
    simp only [digit, Fin.ext_iff, Fin.val_ofNat] at *
    omega
  have hy : y = digit u 0x10 := by
    simp only [digit, Fin.ext_iff, Fin.val_ofNat] at *
    omega
  simp only [ofWord, mk.injEq] at *
  refine ⟨trivial, h1, hx, hy, ?_, ?_, ?_⟩ <;> omega

end Instruction

/-! ## Decoding -/

section

variable {w : Int} {ins : Instruction} {f : Fault}

theorem decode_eq_ok :
    decode w = .ok ins ↔
      ins.op.format.Matches (w % 0x10000).toNat ∧ ins.Digits (w % 0x10000).toNat := by
  rw [← Op.ofWord?_eq_some]
  simp only [decode]
  constructor
  · intro h
    split at h <;> cases h
    next op ho => exact ⟨ho, Instruction.digits_ofWord op _⟩
  · rintro ⟨ho, hd⟩
    simp only [ho]
    rw [← hd.eq_ofWord]

theorem decode_eq_error :
    decode w = .error f ↔
      (∀ op : Op, ¬ op.format.Matches (w % 0x10000).toNat) ∧
        f = .unknownInstruction (w % 0x10000).toNat none := by
  rw [← Op.ofWord?_eq_none]
  simp only [decode]
  constructor
  · intro h
    split at h <;> cases h
    next ho => exact ⟨ho, rfl⟩
  · rintro ⟨ho, rfl⟩
    simp only [ho]

end

/-- No word has two formats. -/
theorem Op.format_unique {op op' : Op} {u : Nat} (h : op.format.Matches u)
    (h' : op'.format.Matches u) : op = op' := by
  rw [← ofWord?_eq_some] at h h'
  exact Option.some_inj.1 (h.symm.trans h')

/-! ## Assembling -/

namespace Format

/-- The fixed digits of the format are digits. -/
def Proper : Format → Prop
  | exact word => word < 0x10000
  | address top | regByte top | regRegRows top => top < 0x10
  | regReg top low => top < 0x10 ∧ low < 0x10
  | reg top low => top < 0x10 ∧ low < 0x100

/-- The operands that the format leaves free, each within its digits. -/
def Fits (f : Format) (n kk nnn : Int) : Prop :=
  match f with
  | address _ => 0 ≤ nnn ∧ nnn < 0x1000
  | regByte _ => 0 ≤ kk ∧ kk < 0x100
  | regRegRows _ => 0 ≤ n ∧ n < 0x10
  | exact _ | regReg .. | reg .. => True

def operands (f : Format) (x y : Nibble) (n kk nnn : Int) : List Int :=
  match f with
  | exact _ => []
  | address _ => [nnn]
  | regByte _ => [x, kk]
  | regReg .. => [x, y]
  | regRegRows _ => [x, y, n]
  | reg .. => [x]

variable {f : Format} {n kk nnn : Int}

/-- A word that is put together by a format has its digits, fixed and free ones. -/
theorem exists_assemble (hf : f.Proper) (x y : Nibble) (h : f.Fits n kk nnn) :
    ∃ u : Nat, f.assemble x y n kk nnn = u ∧ u < 0x10000 ∧ f.Matches u ∧
      ∀ ins : Instruction, ins.Digits u →
        f.operands ins.x ins.y ins.n ins.kk ins.nnn = f.operands x y n kk nnn := by
  have hx := x.isLt
  have hy := y.isLt
  refine ⟨(f.assemble x y n kk nnn).toNat, ?_⟩
  cases f <;> simp only [Proper, Fits] at hf h <;> simp only [assemble, Matches, operands]
  case exact word => exact ⟨by omega, by omega, by omega, fun _ _ => trivial⟩
  all_goals
    refine ⟨by omega, by omega, by omega, ?_⟩
    rintro ins ⟨h1, h2, h3, h4, h5, h6⟩
    simp only [List.cons.injEq, and_true]
    omega

theorem assemble_of_digits {u : Nat} (h : f.Matches u) {ins : Instruction} (hd : ins.Digits u) :
    f.assemble ins.x ins.y ins.n ins.kk ins.nnn = u := by
  obtain ⟨h1, h2, h3, h4, h5, h6⟩ := hd
  cases f <;> simp only [Matches] at h <;> simp only [assemble] <;> omega

end Format

theorem Op.proper_format (op : Op) : op.format.Proper := by
  cases op <;> simp [format, Format.Proper]

namespace Instruction

def operands (ins : Instruction) : List Int :=
  ins.op.format.operands ins.x ins.y ins.n ins.kk ins.nnn

theorem assemble_of_decode {w : Int} {ins : Instruction} (h : decode w = .ok ins) :
    ins.assemble = (w % 0x10000).toNat := by
  obtain ⟨hm, hd⟩ := decode_eq_ok.1 h
  exact Format.assemble_of_digits hm hd

end Instruction

/-- Operands within their digits come back from the word that they were put into. -/
theorem exists_decode_assemble (op : Op) (x y : Nibble) {n kk nnn : Int}
    (h : op.format.Fits n kk nnn) :
    ∃ ins, decode (op.format.assemble x y n kk nnn) = .ok ins ∧ ins.op = op ∧
      ins.operands = op.format.operands x y n kk nnn ∧
      ins.assemble = op.format.assemble x y n kk nnn := by
  obtain ⟨u, hu, hlt, hm, hops⟩ := Format.exists_assemble op.proper_format x y h
  have hmod : ((u : Int) % 0x10000).toNat = u := by omega
  have hdec : decode (op.format.assemble x y n kk nnn) = .ok (.ofWord op u) := by
    rw [hu, decode_eq_ok, hmod]
    exact ⟨hm, Instruction.digits_ofWord op u⟩
  refine ⟨.ofWord op u, hdec, rfl, hops _ (Instruction.digits_ofWord op u), ?_⟩
  rw [Instruction.assemble_of_decode hdec, hu, hmod]

/-- Decoding looks at the last four digits of a number. It accepts them exactly if they have the
fixed digits of one of the 35 formats, never of two, and then gives the operation of that format and
all the digits, which put the word together again; otherwise it names the word and no place. A word
put together from an operation and operands decodes to these. -/
theorem decode_inverts_assemble :
    (∀ w : Int,
      let u := (w % 0x10000).toNat
      ((∃ ins, decode w = .ok ins) ↔ ∃ op : Op, op.format.Matches u) ∧
      (∀ op op' : Op, op.format.Matches u → op'.format.Matches u → op = op') ∧
      (∀ ins, decode w = .ok ins ↔ ins.op.format.Matches u ∧ ins.Digits u) ∧
      (∀ ins, decode w = .ok ins → ins.assemble = u) ∧
      ∀ f, decode w = .error f ↔
        (∀ op : Op, ¬ op.format.Matches u) ∧ f = .unknownInstruction u none) ∧
    ∀ (op : Op) (x y : Nibble) (n kk nnn : Int), op.format.Fits n kk nnn →
      ∃ ins, decode (op.format.assemble x y n kk nnn) = .ok ins ∧ ins.op = op ∧
        ins.operands = op.format.operands x y n kk nnn ∧
        ins.assemble = op.format.assemble x y n kk nnn := by
  refine ⟨fun w => ⟨⟨?_, ?_⟩, ?_, ?_, ?_, ?_⟩, ?_⟩
  · rintro ⟨ins, h⟩
    exact ⟨ins.op, (decode_eq_ok.1 h).1⟩
  · rintro ⟨op, h⟩
    exact ⟨.ofWord op _, decode_eq_ok.2 ⟨h, Instruction.digits_ofWord op _⟩⟩
  · intro op op' h h'
    exact Op.format_unique h h'
  · intro ins
    exact decode_eq_ok
  · intro ins h
    exact Instruction.assemble_of_decode h
  · intro f
    exact decode_eq_error
  · intro op x y n kk nnn h
    exact exists_decode_assemble op x y h

/-- A negative number, a word that only a last digit spoils, and a shift with a second register. -/
theorem decode_inverts_assemble_edges :
    (∃ ins, decode (-0x2EDC) = .ok ins) ∧
    decode 0x35121 = .error (.unknownInstruction 0x5121 none) ∧
    Op.shiftRight.format.Fits 0 0 0 ∧
    ∃ ins, decode 0x8AB6 = .ok ins ∧ ins.op = .shiftRight ∧ ins.operands = [0xA, 0xB] ∧
      ins.assemble = 0x8AB6 := by
  obtain ⟨hwords, hassemble⟩ := decode_inverts_assemble
  refine ⟨?_, ?_, trivial, ?_⟩
  · rw [(hwords (-0x2EDC)).1]
    exact ⟨.draw, by decide⟩
  · rw [(hwords 0x35121).2.2.2.2]
    refine ⟨fun op => ?_, rfl⟩
    cases op <;> decide
  · exact hassemble .shiftRight 0xA 0xB 0 0 0 trivial

end Chip8
