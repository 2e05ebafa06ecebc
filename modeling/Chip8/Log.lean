import Chip8.Fault

/-!
# The log

What the machine and its window report while they work. An entry is an event; its level, source and
text follow from it.
-/

namespace Chip8

namespace Log

inductive Level where
  | debug | info | warning | error
deriving DecidableEq, Repr

namespace Level

def name : Level → String
  | debug => "DEBUG"
  | info => "INFO"
  | warning => "WARNING"
  | error => "ERROR"

/-- Higher levels are more urgent. -/
def rank : Level → Nat
  | debug => 0
  | info => 1
  | warning => 2
  | error => 3

end Level

inductive Entry where
  /-- The machine was reset and stands at `pc`. -/
  | reset (pc : Int)
  /-- A program of `size` bytes was loaded. -/
  | loaded (size : Nat)
  /-- No word could be fetched at `pc`. -/
  | fetchFailed (pc : Int) (f : Fault)
  /-- The word fetched at `pc` could not be executed. -/
  | crashed (word pc : Int) (f : Fault)
  /-- The window stopped running its machine. -/
  | stopped (f : Fault)
deriving DecidableEq, Repr

namespace Entry

def level : Entry → Level
  | reset _ | loaded _ => .debug
  | fetchFailed .. | crashed .. => .error
  | stopped _ => .warning

def source : Entry → String
  | stopped _ => "chip8vm.frontend"
  | _ => "chip8vm.machine"

open Text (hex) in
def text : Entry → String
  | reset pc => "Machine reset (PC=0x" ++ hex 3 pc ++ ")"
  | loaded size => "Loaded ROM: " ++ toString size ++ " bytes"
  | fetchFailed pc f => "Fetch failed at PC=0x" ++ hex 3 pc ++ ": " ++ f.message
  | crashed word pc f =>
    "Crashed executing 0x" ++ hex 4 word ++ " at PC=0x" ++ hex 3 pc ++ ": " ++ f.message
  | stopped f => "Emulation stopped: " ++ f.message

def line (e : Entry) : String := e.source ++ " " ++ e.level.name ++ ": " ++ e.text

end Entry

/-- The lines of the entries that are at least as urgent as `level`. -/
def lines (level : Level) (log : List Entry) : List String :=
  (log.filter fun e => level.rank ≤ e.level.rank).map Entry.line

end Log

end Chip8
