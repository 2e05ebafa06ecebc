import Chip8.Instruction.Decode
import Chip8.Machine.Execute

/-!
# Stepping

A step fetches the word at the program counter, decodes and executes it. A fault crashes the
machine, which then refuses every further step until it is reset. A run is a number of steps with a
tick of the timers after every full frame.
-/

namespace Chip8

namespace Machine

def crash (m : Machine) (f : Fault) (entry : Log.Entry) : Outcome where
  machine := { m with crashed := true }
  error := some (.fault f)
  log := [entry]

/-- The fault of a word fetched at `address`: it is told where it was. -/
def decodeAt (word : Nat) (address : Int) : Except Fault Instruction :=
  match decode word with
  | .ok ins => .ok ins
  | .error _ => .error (.unknownInstruction word (some address))

/-- What `step` does with the word that was fetched at `address`. Only faults crash the machine. -/
def perform (m : Machine) (word : Nat) (address : Int) : Outcome :=
  match decodeAt word address with
  | .error f => m.crash f (.crashed word address f)
  | .ok ins =>
    let o := m.execute ins
    match o.error with
    | none => .done { o.machine with cycles := o.machine.cycles + 1 }
    | some (.fault f) => o.machine.crash f (.crashed word address f)
    | some e => .fail o.machine e

/-- `step`: a crashed machine refuses, a parked one looks for a key, and any other fetches a word
and carries it out. -/
def step (m : Machine) : Outcome :=
  if m.crashed then .fail m (.fault (.halted m.pc))
  else if m.waiting then .done m.poll
  else
    match m.memory.word? m.pc with
    | none => m.crash (.memoryAccess m.pc) (.fetchFailed m.pc (.memoryAccess m.pc))
    | some word => { m with pc := m.pc + 2 }.perform word m.pc

/-- A step that succeeds has nothing to report. -/
theorem log_step_of_error_eq_none {m : Machine} (h : m.step.error = none) : m.step.log = [] := by
  simp only [step, perform, crash, Outcome.done, Outcome.fail] at h ⊢
  repeat' split at h
  all_goals simp_all

/-- The loop of `run`: `left` steps after `gone` earlier ones, with a tick after every `frame`th. -/
def steps (frame : Nat) : (left gone : Nat) → Machine → Outcome
  | 0, _, m => .done m
  | left + 1, gone, m =>
    let o := m.step
    match o.error with
    | some _ => o
    | none =>
      let m := if (gone + 1) % frame = 0 then o.machine.tick else o.machine
      steps frame left (gone + 1) m

abbrev ticksPerFrame : Nat := 10

/-- `run`: frames of no steps are refused before the first step. -/
def run (m : Machine) (cycles frame : Int) : Outcome :=
  if frame < 1 then .fail m (.frameLength frame)
  else steps frame.toNat cycles.toNat 0 m

end Machine

end Chip8
