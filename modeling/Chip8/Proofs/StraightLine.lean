import Chip8.Proofs.ControlFlow
import Chip8.Proofs.Loading

/-!
# Straight-line programs

A program in which every instruction goes on behind its word runs as if the instructions were
carried out one after the other without being fetched. The steps find the words where the load has
put them as long as no instruction writes there; for the rest only the program counter and the count
of instructions tell the two runs apart. Timers and keys may change on the way.
-/

namespace Chip8

/-- The bytes of words, the high byte of each before the low one. -/
def bigEndian (ws : List UInt16) : List UInt8 :=
  ws.flatMap fun w => [.ofNat (w.toNat / 0x100), .ofNat (w.toNat % 0x100)]

theorem bigEndian_cons (w : UInt16) (ws : List UInt16) :
    bigEndian (w :: ws) =
      .ofNat (w.toNat / 0x100) :: .ofNat (w.toNat % 0x100) :: bigEndian ws := rfl

theorem length_bigEndian (ws : List UInt16) : (bigEndian ws).length = 2 * ws.length := by
  induction ws with
  | nil => rfl
  | cons w ws ih =>
    simp only [bigEndian_cons, List.length_cons, ih]
    omega

/-- The operation that leaves the instruction to the machine to fetch. -/
def Call.fetching : Call → Call
  | .execute _ => .step
  | c => c

/-- The operations execute the words one by one, with ticks and keys in between, and none of the
words leads anywhere but behind it. -/
inductive Unrolled : List UInt16 → List Call → Prop
  | nil : Unrolled [] []
  | word {w : UInt16} {ins : Instruction} {ws : List UInt16} {cs : List Call}
    (hd : decode w.toNat = .ok ins) (hs : ins.op.isStraight = true) (h : Unrolled ws cs) :
    Unrolled (w :: ws) (.execute ins :: cs)
  | tick {ws : List UInt16} {cs : List Call} (h : Unrolled ws cs) : Unrolled ws (.tick :: cs)
  | setKey {ws : List UInt16} {cs : List Call} (key : Int) (down : Bool) (h : Unrolled ws cs) :
    Unrolled ws (.setKey key down :: cs)

namespace Memory

/-- The words stand one behind the other from `a` on. -/
def Holds (m : Memory) (a : Int) : List UInt16 → Prop
  | [] => True
  | w :: ws => m.word? a = some w.toNat ∧ m.Holds (a + 2) ws

variable {m n : Memory} {ws : List UInt16}

theorem word?_congr {a : Int} (h0 : n.read? a = m.read? a)
    (h1 : n.read? (a + 1) = m.read? (a + 1)) : n.word? a = m.word? a := by
  unfold word?
  rw [h0, h1]

theorem Holds.congr {a : Int} (h : m.Holds a ws)
    (hr : ∀ i : Nat, i < 2 * ws.length → n.read? (a + i) = m.read? (a + i)) : n.Holds a ws := by
  induction ws generalizing a with
  | nil => trivial
  | cons w ws ih =>
    rw [List.length_cons] at hr
    have h0 := hr 0 (by omega)
    have h1 := hr 1 (by omega)
    rw [Int.natCast_zero, Int.add_zero] at h0
    refine ⟨(word?_congr h0 h1).trans h.1, ih h.2 fun i hi => ?_⟩
    have hi' := hr (i + 2) (by omega)
    rwa [show a + ((i + 2 : Nat) : Int) = a + 2 + i by omega] at hi'

theorem holds_of_bigEndian {a : Int}
    (h : ∀ i b, (bigEndian ws)[i]? = some b → m.read? (a + (i : Nat)) = some b) :
    m.Holds a ws := by
  induction ws generalizing a with
  | nil => trivial
  | cons w ws ih =>
    rw [bigEndian_cons] at h
    constructor
    · have h0 := h 0 _ rfl
      have h1 := h 1 _ rfl
      rw [Int.natCast_zero, Int.add_zero] at h0
      refine word?_eq_some.2 ⟨_, _, h0, h1, ?_⟩
      have hw := w.toNat_lt
      rw [UInt8.toNat_ofNat', UInt8.toNat_ofNat']
      omega
    · refine ih fun i b hb => ?_
      have hi := h (i + 2) b hb
      rwa [show a + ((i + 2 : Nat) : Int) = a + 2 + i by omega] at hi

end Memory

namespace Machine

variable {d : Machine} {ins : Instruction} {w : UInt16} {ws : List UInt16} {cs : List Call}
  {p : Program} {a : Int} {k : Nat}

def reports (m : Machine) : List Call → List (Option Error)
  | [] => []
  | c :: cs => (m.apply c).error :: (m.apply c).machine.reports cs

/-- The instruction is carried out in full and writes none of the `n` cells from `a` on. -/
def Clears (a : Int) (n : Nat) (m : Machine) (ins : Instruction) : Prop :=
  (m.execute ins).error = none ∧ ∀ i : Nat, i < n → ¬ m.WritesCell ins (a + i)

instance (a : Int) (n : Nat) (m : Machine) (ins : Instruction) : Decidable (m.Clears a n ins) :=
  inferInstanceAs (Decidable (_ ∧ _))

/-- The machine when it stands at `a` and has completed `k` instructions. -/
def standing (m : Machine) (a : Int) (k : Nat) : Machine := { m with pc := a, cycles := k }

/-! ## One instruction -/

/-- A straight instruction does not care where the machine stands. -/
theorem execute_standing (h : ins.op.isStraight = true) (d : Machine) (a : Int) (k : Nat) :
    (d.standing a k).execute ins = (d.execute ins).map fun m => m.standing a k := by
  have hc : (d.execute ins).machine.controlledBy (d.standing a k) =
      ((d.execute ins).machine.controlledBy d).standing a k := rfl
  rw [controlledBy_execute h] at hc
  refine (execute_controlledBy h d (d.standing a k)).trans ?_
  exact congrArg (fun machine => { d.execute ins with machine }) hc

theorem Ready.standing (hr : d.Ready) (a : Int) (k : Nat) : (d.standing a k).Ready :=
  ⟨hr.not_crashed, hr.not_waiting⟩

theorem Ready.execute_straight (hr : d.Ready) (h : ins.op.isStraight = true) :
    (d.execute ins).machine.Ready := by
  rw [← controlledBy_execute h d]
  exact ⟨hr.not_crashed, hr.not_waiting⟩

theorem next?_standing (hr : d.Ready) (hw : d.memory.word? a = some w.toNat)
    (hd : decode w.toNat = .ok ins) : (d.standing a k).next? = some ins := by
  have hn : (d.standing a k).next? = (d.memory.word? a).bind fun word => (decode word).toOption :=
    (hr.standing a k).next?_eq
  rw [hn, hw, Option.bind_some, hd]
  rfl

/-- The step that fetches a straight instruction does what the instruction does, and moves on. -/
theorem step_standing (hr : d.Ready) (hw : d.memory.word? a = some w.toNat)
    (hd : decode w.toNat = .ok ins) (hs : ins.op.isStraight = true)
    (he : (d.execute ins).error = none) :
    (d.standing a k).step = .done ((d.execute ins).machine.standing (a + 2) (k + 1)) := by
  have hdec : decodeAt w.toNat a = .ok ins := by rw [decodeAt, hd]
  have hx : (d.standing a k).fetched.execute ins =
      (d.execute ins).map fun m => m.standing (a + 2) k := execute_standing hs d (a + 2) k
  refine ((hr.standing a k).step_of_word hw).trans ((perform_of_decoded hdec).trans ?_)
  rw [hx]
  simp only [Outcome.map, he]
  rfl

theorem setKey_standing (d : Machine) (key : Int) (down : Bool) (a : Int) (k : Nat) :
    (d.standing a k).setKey key down = (d.setKey key down).map fun m => m.standing a k := by
  unfold setKey
  split <;> rfl

/-! ## Both runs -/

/-- What is left of a program, the words `ws`, still stands at `a` within the `n` cells from `start`
on, and nothing keeps the machine from fetching it. -/
structure Ahead (start : Int) (n : Nat) (a : Int) (ws : List UInt16) (d : Machine) : Prop where
  ready : d.Ready
  holds : d.memory.Holds a ws
  start_le : start ≤ a
  le_end : a + 2 * ws.length ≤ start + n

namespace Ahead

variable {start : Int} {n : Nat} {c : Call}

theorem execute (h : Ahead start n a (w :: ws) d) (hs : ins.op.isStraight = true)
    (hc : d.Clears start n ins) : Ahead start n (a + 2) ws (d.execute ins).machine := by
  have h0 := h.start_le
  have hend := h.le_end
  rw [List.length_cons] at hend
  refine ⟨h.ready.execute_straight hs, ?_, by omega, by omega⟩
  refine h.holds.2.congr fun i hi => read?_execute_of_not_writesCell ?_
  have hi' := hc.2 ((a + 2 - start).toNat + i) (by omega)
  rwa [show start + (((a + 2 - start).toNat + i : Nat) : Int) = a + 2 + i by omega] at hi'

/-- One operation keeps the two runs side by side: the one that fetches has moved on over as much of
the program as is done. -/
theorem apply (h : Ahead start n a ws d) (hu : Unrolled ws (c :: cs))
    (hc : ∀ ins, d.executed? c = some ins → d.Clears start n ins) (k : Nat) :
    ∃ a' k' ws', Unrolled ws' cs ∧ Ahead start n a' ws' (d.apply c).machine ∧
      a' + 2 * ws'.length = a + 2 * ws.length ∧ k' + ws'.length = k + ws.length ∧
      ((d.standing a k).apply c.fetching).machine = (d.apply c).machine.standing a' k' ∧
      ((d.standing a k).apply c.fetching).error = (d.apply c).error := by
  cases hu with
  | @word w ins ws _ hd hs hu =>
    have hclear := hc ins rfl
    have hstep : (d.standing a k).apply (.fetching (.execute ins)) =
        .done ((d.execute ins).machine.standing (a + 2) (k + 1)) :=
      step_standing h.ready h.holds.1 hd hs hclear.1
    rw [List.length_cons, hstep]
    exact ⟨a + 2, k + 1, ws, hu, h.execute hs hclear, by omega, by omega, rfl, hclear.1.symm⟩
  | tick hu =>
    have hr : d.tick.Ready := ⟨h.ready.not_crashed, h.ready.not_waiting⟩
    exact ⟨a, k, ws, hu, { h with ready := hr }, rfl, rfl, rfl, rfl⟩
  | setKey key down hu =>
    have hkey : (d.standing a k).apply (.fetching (.setKey key down)) =
        (d.setKey key down).map fun m => m.standing a k := setKey_standing d key down a k
    obtain ⟨keypad, hk⟩ := d.machine_setKey key down
    have hr : { d with keypad }.Ready := ⟨h.ready.not_crashed, h.ready.not_waiting⟩
    rw [hkey]
    refine ⟨a, k, ws, hu, ?_, rfl, rfl, rfl, rfl⟩
    rw [Machine.apply, hk]
    exact { h with ready := hr }

/-- To the end of the program. -/
theorem applyAll (h : Ahead start n a ws d) (hu : Unrolled ws cs)
    (hc : d.Throughout (Clears start n) cs) (k : Nat) :
    (d.standing a k).applyAll (cs.map Call.fetching) =
        (d.applyAll cs).standing (a + 2 * ws.length) (k + ws.length) ∧
      (d.standing a k).reports (cs.map Call.fetching) = d.reports cs := by
  -- with each operation as much of the program as it executes is no longer ahead
  induction cs generalizing d a k ws with
  | nil =>
    cases hu
    refine ⟨?_, rfl⟩
    show d.standing a k = d.standing (a + 2 * (0 : Nat)) (k + 0)
    rw [Int.natCast_zero, Int.mul_zero, Int.add_zero, Nat.add_zero]
  | cons c cs ih =>
    obtain ⟨a', k', ws', hu', h', ha, hk, hm, he⟩ := h.apply hu hc.1 k
    obtain ⟨hend, hrep⟩ := ih h' hu' hc.2 k'
    rw [ha, hk, ← hm] at hend
    rw [← hm] at hrep
    exact ⟨hend, (List.cons_eq_cons.2 ⟨he, hrep⟩ :)⟩

/-- What the steps keep clear of, the instructions keep clear of. -/
theorem throughout_of_fetching (h : Ahead start n a ws d) (hu : Unrolled ws cs) {k : Nat}
    (hc : (d.standing a k).Throughout (Clears start n) (cs.map Call.fetching)) :
    d.Throughout (Clears start n) cs := by
  induction cs generalizing d a k ws with
  | nil => trivial
  | cons c cs ih =>
    have hfirst : ∀ ins, d.executed? c = some ins → d.Clears start n ins := by
      intro ins hins
      cases hu with
      | word hd hs hu =>
        cases hins
        -- the step finds this very instruction, so it is no condition on another one
        have hx := hc.1 ins (next?_standing h.ready h.holds.1 hd)
        rw [Clears, execute_standing hs] at hx
        exact hx
      | tick | setKey => cases hins
    obtain ⟨a', k', ws', hu', h', -, -, hm, -⟩ := h.apply hu hfirst k
    have hrest := hc.2
    rw [hm] at hrest
    exact ⟨hfirst, ih h' hu' hrest⟩

end Ahead

/-! ## Loading -/

/-- A new machine with the program loaded has all of it ahead. -/
theorem load_bigEndian (hp : p.Lists ((bigEndian ws).map fun b => (b.toNat : Int)))
    (hl : ws.length ≤ 1792) (seed : Nat) :
    ((fresh seed).load p).error = none ∧
      Ahead 0x200 (2 * ws.length) 0x200 ws ((fresh seed).load p).machine ∧
      ((fresh seed).load p).machine.standing 0x200 0 = ((fresh seed).load p).machine := by
  have hlen : ((bigEndian ws).map fun b => (b.toNat : Int)).length ≤ 3584 := by
    rw [List.length_map, length_bigEndian]
    omega
  rw [load_of_fits hp Program.byte_of_mem_map_toNat hlen]
  refine ⟨rfl, ⟨⟨rfl, rfl⟩, ?_, by omega, by omega⟩, rfl⟩
  refine Memory.holds_of_bigEndian fun i b hb => ?_
  have hi := (List.getElem?_eq_some_iff.1 hb).1
  rw [length_bigEndian] at hi
  refine ((fresh seed).memory.overlaid_store (a := 0x200) (by decide) _).1 i b ?_ (by omega)
  rw [List.getElem?_map, List.getElem?_map, hb]
  exact congrArg some (Program.ofInt_toNat b)

/-- A straight-line program that is loaded into a new machine and neither fails nor writes to itself
takes a step for each word. It ends behind its last word, which may be the last of memory, with its
words counted, and for all else with what its instructions come to when they are carried out one
after the other without being fetched. Timers that tick and keys that change on the way change
nothing about that, and the same is reported on the way. -/
theorem applyAll_straight_line (seed : Nat)
    (hp : p.Lists ((bigEndian ws).map fun b => (b.toNat : Int))) (hl : ws.length ≤ 1792)
    (hu : Unrolled ws cs) :
    let loaded := ((fresh seed).load p).machine
    ((fresh seed).load p).error = none ∧
      (loaded.Throughout (Clears 0x200 (2 * ws.length)) cs ∨
          loaded.Throughout (Clears 0x200 (2 * ws.length)) (cs.map Call.fetching) →
        loaded.applyAll (cs.map Call.fetching) =
            { loaded.applyAll cs with pc := 0x200 + 2 * ws.length, cycles := ws.length } ∧
          loaded.reports (cs.map Call.fetching) = loaded.reports cs) := by
  intro loaded
  obtain ⟨he, h, hs⟩ := load_bigEndian hp hl seed
  refine ⟨he, fun hc => ?_⟩
  change loaded.standing 0x200 0 = loaded at hs
  have hc' : loaded.Throughout (Clears 0x200 (2 * ws.length)) cs := by
    rcases hc with hc | hc
    · exact hc
    · rw [← hs] at hc
      exact h.throughout_of_fetching hu hc
  have hrun := h.applyAll hu hc' 0
  rw [Nat.zero_add] at hrun
  rwa [hs] at hrun

/-- Digits that are stored behind the last word, with a tick and keys on the way, of which one is no
key. -/
theorem applyAll_straight_line_digits :
    let ws : List UInt16 := [0x6A9C, 0xFA15, 0xA208, 0xFA33]
    let p : Program := .bytes (bigEndian ws)
    let cs : List Call := [.execute (.ofWord .loadByte 0x6A9C), .setKey 3 true,
      .execute (.ofWord .setDelay 0xFA15), .tick, .execute (.ofWord .loadIndex 0xA208),
      .setKey 16 true, .execute (.ofWord .storeDecimal 0xFA33)]
    let loaded := ((fresh 7).load p).machine
    let m := loaded.applyAll (cs.map Call.fetching)
    (p.Lists ((bigEndian ws).map fun b => (b.toNat : Int)) ∧ ws.length ≤ 1792 ∧ Unrolled ws cs ∧
      loaded.Throughout (Clears 0x200 (2 * ws.length)) cs) ∧
    m = { loaded.applyAll cs with pc := 0x208, cycles := 4 } ∧ m.delay = 155 ∧
      m.memory.word? 0x209 = some 0x0506 ∧
      loaded.reports (cs.map Call.fetching) =
        [none, none, none, none, none, some (.fault (.keyIndex 16)), none] := by
  intro ws p cs loaded m
  have hp : p.Lists ((bigEndian ws).map fun b => (b.toNat : Int)) := .bytes _
  have hu : Unrolled ws cs :=
    .word rfl rfl (.setKey 3 true (.word rfl rfl (.tick (.word rfl rfl (.setKey 16 true
      (.word rfl rfl .nil))))))
  obtain ⟨hc, hdelay, hword, hrep⟩ :
      loaded.Throughout (Clears 0x200 (2 * ws.length)) cs ∧ (loaded.applyAll cs).delay = 155 ∧
        (loaded.applyAll cs).memory.word? 0x209 = some 0x0506 ∧
        loaded.reports cs =
          [none, none, none, none, none, some (.fault (.keyIndex 16)), none] := by decide +kernel
  obtain ⟨hend, hsame⟩ := (applyAll_straight_line 7 hp (by decide) hu).2 (.inl hc)
  change m = { loaded.applyAll cs with pc := 0x208, cycles := 4 } at hend
  refine ⟨⟨hp, by decide, hu, hc⟩, hend, ?_, ?_, hsame.trans hrep⟩
  · rw [hend, ← hdelay]
  · rw [hend, ← hword]

end Machine

end Chip8
