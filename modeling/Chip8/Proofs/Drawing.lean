import Chip8.Proofs.Transfers

/-!
# Drawing

A drawing names a sprite in memory and the corner that it is drawn at. How often it hits a pixel is
counted over the bits of the sprite, and the count alone decides what becomes of the pixel and what
the flag reports: a pixel flips if it is hit an odd number of times, and a lit pixel goes out on the
way if it was lit before and is hit, or if it is hit twice.
-/

namespace Chip8

open Bitmap (width height)
open Machine (flagRegister)

/-- A sprite of `rows` bytes from `address` on, with its corner at `(column, line)`. -/
structure Drawing where
  address : Int
  rows : Nat
  column : UInt8
  line : UInt8
deriving DecidableEq, Repr

namespace Drawing

def Fits (d : Drawing) : Prop := d.rows = 0 ∨ (0 ≤ d.address ∧ d.address + d.rows ≤ 4096)

/-- The places of a sprite's bits, as row and column. -/
def places (d : Drawing) : List (Nat × Nat) :=
  (List.range d.rows).flatMap fun r => (List.range 8).map fun c => (r, c)

/-- At the place stands a bit, and it comes to lie on the pixel. -/
def covers (d : Drawing) (memory : Memory) (col : Fin width) (row : Fin height) (p : Nat × Nat) :
    Bool :=
  (memory.read? (d.address + p.1)).any (·.toNat.testBit (7 - p.2)) &&
    decide ((d.column.toNat + p.2) % width = col.val ∧ (d.line.toNat + p.1) % height = row.val)

/-- How many bits of the sprite come to lie on the pixel. -/
def hits (d : Drawing) (memory : Memory) (col : Fin width) (row : Fin height) : Nat :=
  d.places.countP (d.covers memory col row)

def bytes (d : Drawing) (memory : Memory) : List UInt8 := (memory.load d.address d.rows).1

variable {d : Drawing} {memory : Memory} {col : Fin width} {row : Fin height}

theorem fits_iff : d.Fits ↔ Memory.stop d.address d.rows = none := by
  unfold Fits Memory.stop
  split <;> simp [*]

theorem length_bytes (h : d.Fits) : (d.bytes memory).length = d.rows :=
  Memory.length_load_of_fits memory (fits_iff.1 h)

theorem getElem?_bytes (h : d.Fits) {r : Nat} (hr : r < d.rows) :
    (d.bytes memory)[r]? = memory.read? (d.address + r) := by
  have h0 : 0 ≤ d.address := by
    rcases h with h | h
    · omega
    · exact h.1
  rw [bytes, Memory.getElem?_load memory h0, if_pos hr]

/-! ## Counting hits -/

/-- Of the columns of a row one at most comes to lie on a column of the bitmap. -/
theorem countP_row (x : Nat) (b : UInt8) (col : Fin width) :
    ((List.range 8).countP fun c => b.toNat.testBit (7 - c) && decide ((x + c) % width = col.val)) =
      if (Bitmap.Line.ofByte x b).get col = true then 1 else 0 := by
  have hcol : col.val < 64 := col.isLt
  let c' := (col.val + (64 - x % 64)) % 64
  have hget : (Bitmap.Line.ofByte x b).get col = (decide (c' < 8) && b.toNat.testBit (7 - c')) :=
    Bitmap.Line.get_ofByte x b col
  have hplace : ∀ c ∈ List.range 8,
      (b.toNat.testBit (7 - c) && decide ((x + c) % width = col.val)) = true ↔
        (b.toNat.testBit (7 - c') && (c == c')) = true := by
    intro c hc
    have hlt := List.mem_range.1 hc
    have hw : (x + c) % width = (x + c) % 64 := rfl
    have hiff : (x + c) % width = col.val ↔ c = c' := by
      rw [hw]
      omega
    rw [Bool.and_eq_true, Bool.and_eq_true, decide_eq_true_eq, beq_iff_eq, hiff]
    exact and_congr_left fun h => by rw [h]
  rw [List.countP_congr hplace, hget]
  cases b.toNat.testBit (7 - c') with
  | false => simp
  | true =>
    have hcount := (List.nodup_range (n := 8)).count (a := c')
    simpa [List.count] using hcount

/-- Where each part holds one element at most, the parts are counted. -/
theorem countP_flatMap_of_le_one {α β : Type} {p : β → Bool} {q : α → Bool} {f : α → List β}
    {l : List α} (h : ∀ a ∈ l, (f a).countP p = if q a = true then 1 else 0) :
    (l.flatMap f).countP p = l.countP q := by
  induction l with
  | nil => rfl
  | cons a l ih =>
    rw [List.flatMap_cons, List.countP_append, List.countP_cons, h a List.mem_cons_self,
      ih fun b hb => h b (List.mem_cons_of_mem a hb), Nat.add_comm]

/-- A row of bits comes to lie on a pixel once or not at all. -/
theorem countP_covers {r : Nat} :
    ((List.range 8).countP fun c => d.covers memory col row (r, c)) =
      if (decide (row = Bitmap.lineOf (d.line.toNat + r)) && (memory.read? (d.address + r)).any
        fun b => (Bitmap.Line.ofByte d.column.toNat b).get col) = true then 1 else 0 := by
  have hrow : (d.line.toNat + r) % height = row.val ↔ row = Bitmap.lineOf (d.line.toNat + r) :=
    Bitmap.eq_lineOf.symm
  simp only [covers, hrow]
  cases memory.read? (d.address + r) with
  | none => simp
  | some b =>
    by_cases h : row = Bitmap.lineOf (d.line.toNat + r)
    · simp only [h, Option.any_some, and_true, decide_true, Bool.true_and]
      exact countP_row d.column.toNat b col
    · simp [h]

/-- Counted over its rows or over its bits, a sprite hits a pixel equally often. -/
theorem hits_eq (h : d.Fits) :
    d.hits memory col row =
      Bitmap.hits d.column.toNat d.line.toNat col row (d.bytes memory) := by
  rw [Bitmap.hits_eq_countP, length_bytes h]
  refine countP_flatMap_of_le_one fun r hr => ?_
  rw [List.countP_map, getElem?_bytes h (List.mem_range.1 hr)]
  exact countP_covers

/-- A sprite that is no higher than the display does not overlap itself. -/
theorem hits_le_one (h : d.Fits) (hrows : d.rows ≤ 32) : d.hits memory col row ≤ 1 := by
  rw [hits_eq h]
  exact Bitmap.hits_le_one (by rwa [length_bytes h])

end Drawing

/-! ## The instruction -/

namespace Machine

variable {m : Machine} {ins : Instruction}

def drawing (m : Machine) (ins : Instruction) : Drawing where
  address := m.index
  rows := ins.n.toNat
  column := m.registers.read ins.x
  line := m.registers.read ins.y

/-- The display and the report of a collision that an instruction draws. -/
def drawn (m : Machine) (ins : Instruction) : Bitmap × Bool :=
  let d := m.drawing ins
  m.display.draw d.column.toNat d.line.toNat (d.bytes m.memory)

theorem execute_draw (hop : ins.op = .draw) (h : (m.drawing ins).Fits) :
    m.execute ins = .done { m with
      display := (m.drawn ins).1
      registers := m.registers.write flagRegister (if (m.drawn ins).2 then 1 else 0) } := by
  obtain ⟨op, word, x, y, n, kk, nnn⟩ := ins
  cases hop
  exact drawSprite_of_fits (Drawing.fits_iff.1 h) _ _

theorem get_drawn (h : (m.drawing ins).Fits) (col : Fin width) (row : Fin height) :
    (m.drawn ins).1.get col row =
      xor (m.display.get col row) (decide ((m.drawing ins).hits m.memory col row % 2 = 1)) := by
  rw [drawn, Bitmap.get_draw, Drawing.hits_eq h]

theorem drawn_hit (h : (m.drawing ins).Fits) :
    (m.drawn ins).2 = true ↔ ∃ col row, 2 ≤ (m.drawing ins).hits m.memory col row ∨
      (1 ≤ (m.drawing ins).hits m.memory col row ∧ m.display.get col row = true) := by
  simp only [drawn, Bitmap.draw_hit, Drawing.hits_eq h]

theorem display_execute_draw (hop : ins.op = .draw) (h : (m.drawing ins).Fits) :
    (m.execute ins).machine.display = (m.drawn ins).1 := by
  rw [execute_draw hop h]
  rfl

theorem memory_execute_draw (hop : ins.op = .draw) (hfits : (m.drawing ins).Fits) :
    (m.execute ins).machine.memory = m.memory := by
  rw [execute_draw hop hfits]
  rfl

/-- Without rows that overlap the flag tells whether the sprite meets the display. -/
theorem flag_execute_draw (hop : ins.op = .draw) (hfits : (m.drawing ins).Fits)
    (hrows : (m.drawing ins).rows ≤ 32) :
    (m.execute ins).machine.registers.read flagRegister =
      if ∃ col row, 1 ≤ (m.drawing ins).hits m.memory col row ∧ m.display.get col row = true
      then 1 else 0 := by
  have hmeets : (m.drawn ins).2 = true ↔ ∃ col row,
      1 ≤ (m.drawing ins).hits m.memory col row ∧ m.display.get col row = true := by
    rw [drawn_hit hfits]
    refine exists_congr fun col => exists_congr fun row => ?_
    have hle : (m.drawing ins).hits m.memory col row ≤ 1 := Drawing.hits_le_one hfits hrows
    constructor
    · rintro (h | h)
      · omega
      · exact h
    · exact .inr
  rw [execute_draw hop hfits]
  simp only [Outcome.done, Bank.read_write, if_true, hmeets]

/-- Drawing flips the pixels that the sprite hits an odd number of times, around both edges, and the
flag tells whether a lit pixel went out: one that was lit before and is hit, or one that is hit
twice. Nothing else changes. A sprite no higher than the display hits no pixel twice, so the display
is combined with it, and the flag tells whether the two meet. -/
theorem execute_draw_by_hits (m : Machine) (ins : Instruction) (hop : ins.op = .draw)
    (hfits : (m.drawing ins).Fits) :
    let hits := (m.drawing ins).hits m.memory
    ∃ registers display, m.execute ins = .done { m with registers, display } ∧
      (∀ col row, display.get col row =
        if hits col row % 2 = 1 then !m.display.get col row else m.display.get col row) ∧
      (registers.read flagRegister =
        if ∃ col row, 2 ≤ hits col row ∨ (1 ≤ hits col row ∧ m.display.get col row = true) then 1
        else 0) ∧
      (∀ k, k ≠ flagRegister → registers.read k = m.registers.read k) ∧
      ((m.drawing ins).rows ≤ 32 →
        (∀ col row, hits col row ≤ 1) ∧
        (∀ col row, display.get col row =
          xor (m.display.get col row) (decide (1 ≤ hits col row))) ∧
        registers.read flagRegister =
          if ∃ col row, 1 ≤ hits col row ∧ m.display.get col row = true then 1 else 0) := by
  intro hits
  have hx := execute_draw hop hfits
  have hflip : ∀ col row, (m.drawn ins).1.get col row =
      xor (m.display.get col row) (decide (hits col row % 2 = 1)) := get_drawn hfits
  refine ⟨_, _, hx, fun col row => ?_, ?_, fun k hk => ?_, fun hrows => ⟨?_, fun col row => ?_, ?_⟩⟩
  · rw [hflip]
    by_cases h : hits col row % 2 = 1 <;> simp [h]
  · rw [Bank.read_write, if_pos rfl]
    simp only [drawn_hit hfits, hits]
  · rw [Bank.read_write, if_neg (Ne.symm hk)]
  · exact fun _ _ => Drawing.hits_le_one hfits hrows
  · have h : hits col row ≤ 1 := Drawing.hits_le_one hfits hrows
    rw [hflip]
    congr 2
    exact propext (by omega)
  · have hflag := flag_execute_draw hop hfits hrows
    rw [hx] at hflag
    exact hflag

/-- Forty rows of the font, with the flag register for both coordinates: the last rows come to lie
on the first. -/
theorem execute_draw_by_hits_overlapping :
    let m : Machine := { fresh 0 with registers := (fresh 0).registers.write flagRegister 62 }
    let ins : Instruction :=
      { op := .draw, word := 0, x := 0xF, y := 0xF, n := 40, kk := 0, nnn := 0 }
    (ins.op = .draw ∧ (m.drawing ins).Fits) ∧
      ∃ registers display, m.execute ins = .done { m with registers, display } ∧
        display.get 62 30 = false ∧ display.get 63 0 = true ∧ registers.read flagRegister = 1 := by
  intro m ins
  have hfits : (m.drawing ins).Fits := .inr (by decide +kernel)
  obtain ⟨htwice, honce, hdark, hdark'⟩ : (m.drawing ins).hits m.memory 62 30 = 2 ∧
      (m.drawing ins).hits m.memory 63 0 = 1 ∧ m.display.get 62 30 = false ∧
      m.display.get 63 0 = false := by decide +kernel
  obtain ⟨registers, display, hx, hflip, hflag, -⟩ := execute_draw_by_hits m ins rfl hfits
  refine ⟨⟨rfl, hfits⟩, registers, display, hx, ?_, ?_, ?_⟩
  · rw [hflip, htwice, hdark]
    rfl
  · rw [hflip, honce, hdark']
    rfl
  · rw [hflag, if_pos ⟨62, 30, .inl (Nat.le_of_eq htwice.symm)⟩]

end Machine

end Chip8
