import Chip8.Proofs.Drawing

/-!
# Drawing over drawings

Drawings that are made one after the other leave a pixel flipped if an odd number of them flips it,
so their order does not matter and two equal ones undo each other, whatever else is done between
them. A sprite that is drawn twice in a row is gone again. The flag then tells in turn whether some
of its pixels were lit and whether some were dark, so one of the two drawings reports a collision.
-/

namespace Chip8

open Bitmap (width height)
open Machine (flagRegister)

namespace Drawing

variable {d : Drawing} {memory memory' : Memory} {col : Fin width} {row : Fin height}

/-- The drawing leaves the pixel other than it was. -/
def flips (d : Drawing) (memory : Memory) (col : Fin width) (row : Fin height) : Bool :=
  decide (d.hits memory col row % 2 = 1)

/-- Some bit of the sprite is set. -/
def Inked (d : Drawing) (memory : Memory) : Prop :=
  ∃ r c b, r < d.rows ∧ c < 8 ∧ memory.read? (d.address + (r : Nat)) = some b ∧
    b.toNat.testBit (7 - c) = true

/-- Only the rows of a sprite matter, not what else lies in memory. -/
theorem hits_congr
    (h : ∀ r < d.rows, memory.read? (d.address + (r : Nat)) = memory'.read? (d.address + r)) :
    d.hits memory col row = d.hits memory' col row := by
  refine List.countP_congr fun p hp => ?_
  obtain ⟨r, hr, hc⟩ := List.mem_flatMap.1 hp
  obtain ⟨c, -, rfl⟩ := List.mem_map.1 hc
  simp only [covers, h r (List.mem_range.1 hr)]

/-- A set bit lies on some pixel. -/
theorem exists_hits_of_inked (h : d.Inked memory) : ∃ col row, 1 ≤ d.hits memory col row := by
  obtain ⟨r, c, b, hr, hc, hb, hset⟩ := h
  refine ⟨⟨(d.column.toNat + c) % 64, Nat.mod_lt _ (by decide)⟩, Bitmap.lineOf (d.line.toNat + r),
    List.countP_pos_iff.2 ⟨(r, c), ?_, ?_⟩⟩
  · exact List.mem_flatMap.2
      ⟨r, List.mem_range.2 hr, List.mem_map.2 ⟨c, List.mem_range.2 hc, rfl⟩⟩
  · rw [covers, Bool.and_eq_true, decide_eq_true_eq]
    refine ⟨?_, rfl, rfl⟩
    rw [hb]
    exact hset

end Drawing

namespace Machine

variable {m n : Machine} {ins : Instruction}

theorem fits_of_error_eq_none (hop : ins.op = .draw) (h : (m.execute ins).error = none) :
    (m.drawing ins).Fits := by
  rw [error_execute_of_transfers (by rw [hop]; rfl), Option.map_eq_none_iff] at h
  have hspan : ins.span = ins.n.toNat := by rw [Instruction.span, hop]
  rw [hspan] at h
  exact Drawing.fits_iff.2 h

/-! ## Many drawings -/

/-- From `m` on the drawings are made one after the other, until `m'` is left. Before each of them
anything may happen to the machine, as long as the display is not touched and the bytes of the
sprites are those in `memory`. -/
inductive Draws (memory : Memory) : Machine → List Drawing → Machine → Prop
  | nil (m : Machine) : Draws memory m [] m
  | cons {m ready m' : Machine} {ins : Instruction} {ds : List Drawing} (hop : ins.op = .draw)
    (hdisplay : ready.display = m.display)
    (hsprite : ∀ r < ins.n.toNat,
      ready.memory.read? (ready.index + (r : Nat)) = memory.read? (ready.index + r))
    (hdone : (ready.execute ins).error = none)
    (hrest : Draws memory (ready.execute ins).machine ds m') :
    Draws memory m (ready.drawing ins :: ds) m'

variable {memory : Memory} {m' n' : Machine} {ds es : List Drawing}

theorem Draws.get_display (h : Draws memory m ds m') (col : Fin width) (row : Fin height) :
    m'.display.get col row = xor (m.display.get col row)
      (decide (ds.countP (·.flips memory col row) % 2 = 1)) := by
  induction h with
  | nil => simp
  | @cons m ready m' ins ds hop hdisplay hsprite hdone _ ih =>
    have hfits := fits_of_error_eq_none hop hdone
    have hhits : (ready.drawing ins).hits ready.memory col row =
        (ready.drawing ins).hits memory col row := Drawing.hits_congr hsprite
    rw [ih, display_execute_draw hop hfits, get_drawn hfits, hhits, hdisplay, List.countP_cons,
      Nat.add_comm, Bitmap.decide_odd_add, Bool.xor_assoc, Drawing.flips]
    by_cases hodd : (ready.drawing ins).hits memory col row % 2 = 1 <;> simp [hodd]

/-- Only the parity of the drawings that flip a pixel counts. -/
theorem Draws.display_eq (h : Draws memory m ds m') (h' : Draws memory n es n')
    (hd : m.display = n.display)
    (hparity : ∀ col row, ds.countP (·.flips memory col row) % 2 =
      es.countP (·.flips memory col row) % 2) : m'.display = n'.display := by
  refine Bitmap.ext_get fun col row => ?_
  rw [h.get_display, h'.get_display, hd, hparity]

/-- Drawings that fit can be made, from any machine on and in any order. -/
theorem exists_draws (memory : Memory) (m : Machine) (h : ∀ d ∈ ds, d.Fits) :
    ∃ m', Draws memory m ds m' := by
  induction ds generalizing m with
  | nil => exact ⟨m, .nil m⟩
  | cons d ds ih =>
    let ready : Machine := { m with
      memory, index := d.address
      registers := (m.registers.write 0 d.column).write 1 d.line }
    let ins : Instruction :=
      { op := .draw, word := 0, x := 0, y := 1, n := d.rows, kk := 0, nnn := 0 }
    have hd : ready.drawing ins = d := by
      simp [drawing, ready, ins, Bank.read_write]
    have hfits : (ready.drawing ins).Fits := by
      rw [hd]
      exact h d List.mem_cons_self
    have hdone : (ready.execute ins).error = none := by
      rw [execute_draw rfl hfits]
      rfl
    obtain ⟨m', hm⟩ := ih (ready.execute ins).machine fun e he => h e (List.mem_cons_of_mem d he)
    have hcons : Draws memory m (ready.drawing ins :: ds) m' :=
      .cons rfl rfl (fun _ _ => rfl) hdone hm
    rw [hd] at hcons
    exact ⟨m', hcons⟩

/-! ## One drawing, twice -/

/-- Drawing leaves the coordinates where they are unless one of them is in the flag register. -/
theorem drawing_execute (hop : ins.op = .draw) (hfits : (m.drawing ins).Fits)
    (hx : ins.x ≠ flagRegister) (hy : ins.y ≠ flagRegister) :
    (m.execute ins).machine.drawing ins = m.drawing ins := by
  rw [execute_draw hop hfits]
  simp only [Outcome.done, drawing, Bank.read_write, if_neg (Ne.symm hx), if_neg (Ne.symm hy)]

/-- A pixel under the sprite is flipped and flipped back, so the second time the flag tells of those
that were dark. -/
theorem execute_draw_twice (hop : ins.op = .draw) (hfits : (m.drawing ins).Fits)
    (hrows : (m.drawing ins).rows ≤ 32) (hx : ins.x ≠ flagRegister) (hy : ins.y ≠ flagRegister) :
    let once := m.execute ins
    let twice := once.machine.execute ins
    once.error = none ∧ twice.error = none ∧ twice.machine.display = m.display ∧
      twice.machine.registers.read flagRegister =
        if ∃ col row, 1 ≤ (m.drawing ins).hits m.memory col row ∧ m.display.get col row = false
        then 1 else 0 := by
  intro once twice
  have hsame : once.machine.drawing ins = m.drawing ins := drawing_execute hop hfits hx hy
  have hmemory : once.machine.memory = m.memory := memory_execute_draw hop hfits
  have hfits' : (once.machine.drawing ins).Fits := by rwa [hsame]
  have hdisplay : ∀ col row, once.machine.display.get col row = xor (m.display.get col row)
      (decide ((m.drawing ins).hits m.memory col row % 2 = 1)) := by
    intro col row
    rw [display_execute_draw hop hfits, get_drawn hfits]
  refine ⟨by rw [show once = _ from execute_draw hop hfits]; rfl,
    by rw [show twice = _ from execute_draw hop hfits']; rfl, ?_, ?_⟩
  · refine Bitmap.ext_get fun col row => ?_
    rw [display_execute_draw hop hfits', get_drawn hfits', hsame, hmemory, hdisplay, Bool.xor_assoc,
      Bool.xor_self, Bool.xor_false]
  · have hdark : ∀ col row,
        (1 ≤ (m.drawing ins).hits m.memory col row ∧ once.machine.display.get col row = true) ↔
          (1 ≤ (m.drawing ins).hits m.memory col row ∧ m.display.get col row = false) := by
      intro col row
      have hle : (m.drawing ins).hits m.memory col row ≤ 1 := Drawing.hits_le_one hfits hrows
      refine and_congr_right fun h => ?_
      rw [hdisplay, show (m.drawing ins).hits m.memory col row = 1 by omega]
      cases m.display.get col row <;> decide
    rw [flag_execute_draw hop hfits' (by rwa [hsame])]
    simp only [hsame, hmemory, hdark]

/-- The display behind drawings that follow each other depends neither on their order nor on two
equal ones among them, wherever they stand and whatever is done between the drawings; and every list
of drawings that fit can be made. A sprite drawn twice in a row leaves the display as it was; the
flag tells the first time whether some pixel under the sprite was lit and the second time whether
some was dark, so unless the sprite is blank one of the two reports a collision. -/
theorem drawings_commute_and_cancel :
    (∀ memory m m' n n' ds es, Draws memory m ds m' → Draws memory n es n' →
      m.display = n.display →
      (ds.Perm es ∨ ∃ d as bs cs, ds = as ++ d :: bs ++ d :: cs ∧ es = as ++ bs ++ cs) →
      m'.display = n'.display) ∧
    (∀ memory m ds, (∀ d ∈ ds, d.Fits) → ∃ m', Draws memory m ds m') ∧
    ∀ (m : Machine) (ins : Instruction), ins.op = .draw → (m.drawing ins).Fits →
      (m.drawing ins).rows ≤ 32 → ins.x ≠ flagRegister → ins.y ≠ flagRegister →
      let hits := (m.drawing ins).hits m.memory
      let once := m.execute ins
      let twice := once.machine.execute ins
      (once.error = none ∧ twice.error = none) ∧ twice.machine.display = m.display ∧
        (once.machine.registers.read flagRegister =
          if ∃ col row, 1 ≤ hits col row ∧ m.display.get col row = true then 1 else 0) ∧
        (twice.machine.registers.read flagRegister =
          if ∃ col row, 1 ≤ hits col row ∧ m.display.get col row = false then 1 else 0) ∧
        ((m.drawing ins).Inked m.memory →
          once.machine.registers.read flagRegister = 1 ∨
            twice.machine.registers.read flagRegister = 1) := by
  refine ⟨fun memory m m' n n' ds es h h' hd hlist => ?_,
    fun memory m ds h => exists_draws memory m h, fun m ins hop hfits hrows hx hy => ?_⟩
  · refine h.display_eq h' hd fun col row => ?_
    rcases hlist with hperm | ⟨d, as, bs, cs, rfl, rfl⟩
    · rw [hperm.countP_eq]
    · simp only [List.countP_append, List.countP_cons]
      split <;> omega
  · intro hits once twice
    have hfirst := flag_execute_draw hop hfits hrows
    obtain ⟨hdone, hdone', hback, hsecond⟩ := execute_draw_twice hop hfits hrows hx hy
    refine ⟨⟨hdone, hdone'⟩, hback, hfirst, hsecond, fun hinked => ?_⟩
    obtain ⟨col, row, hhit⟩ := Drawing.exists_hits_of_inked hinked
    cases hpixel : m.display.get col row with
    | true => exact .inl (hfirst.trans (if_pos ⟨col, row, hhit, hpixel⟩))
    | false => exact .inr (hsecond.trans (if_pos ⟨col, row, hhit, hpixel⟩))

/-- Two glyphs that overlap around the corner of the display, one of them drawn twice; and a glyph
on a blank display, whose second drawing collides. -/
theorem drawings_commute_and_cancel_glyphs :
    let m := fresh 0
    let zero : Drawing := { address := 0, rows := 5, column := 62, line := 30 }
    let one : Drawing := { address := 5, rows := 5, column := 60, line := 29 }
    let ins : Instruction := .ofWord .draw 0xD015
    let once := m.execute ins
    let twice := once.machine.execute ins
    (∃ m' n', Draws m.memory m [zero, one, zero] m' ∧ Draws m.memory m [one] n' ∧
      m'.display = n'.display) ∧
    (ins.op = .draw ∧ (m.drawing ins).Fits ∧ (m.drawing ins).rows ≤ 32 ∧ ins.x ≠ flagRegister ∧
      ins.y ≠ flagRegister ∧ (m.drawing ins).Inked m.memory) ∧
    twice.machine.display = m.display ∧
      (once.machine.registers.read flagRegister = 1 ∨
        twice.machine.registers.read flagRegister = 1) := by
  intro m zero one ins once twice
  obtain ⟨hlists, hexists, hpair⟩ := drawings_commute_and_cancel
  have hzero : zero.Fits := .inr (by decide)
  have hone : one.Fits := .inr (by decide)
  obtain ⟨m', hm⟩ := hexists m.memory m [zero, one, zero] (by simp [hzero, hone])
  obtain ⟨n', hn⟩ := hexists m.memory m [one] (by simp [hone])
  have hfits : (m.drawing ins).Fits := .inr (by decide)
  have hnames : (m.drawing ins).rows ≤ 32 ∧ ins.x ≠ flagRegister ∧ ins.y ≠ flagRegister := by decide
  have hinked : (m.drawing ins).Inked m.memory :=
    ⟨0, 0, 0xF0, by decide, by decide, by decide +kernel, by decide⟩
  obtain ⟨hrows, hx, hy⟩ := hnames
  obtain ⟨-, hback, -, -, hreport⟩ := hpair m ins rfl hfits hrows hx hy
  have hsame : m'.display = n'.display :=
    hlists _ _ _ _ _ _ _ hm hn rfl (.inr ⟨zero, [], [one], [], rfl, rfl⟩)
  dsimp only [once, twice]
  exact ⟨⟨m', n', hm, hn, hsame⟩, ⟨rfl, hfits, hrows, hx, hy, hinked⟩, hback, hreport hinked⟩

end Machine

end Chip8
