import Chip8.Machine.Program
import Chip8.Machine.Step

/-!
# Operations as data

The public operations of a machine with their arguments, and the machines that sequences of them
reach from a fresh one, failed operations included.
-/

namespace Chip8

inductive Call where
  | load (p : Program)
  | step
  | tick
  | setKey (key : Int) (down : Bool)
  | run (cycles frame : Int)
  | reset
  | execute (ins : Instruction)

namespace Machine

def apply (m : Machine) : Call → Outcome
  | .load p => m.load p
  | .step => m.step
  | .tick => .done m.tick
  | .setKey key down => m.setKey key down
  | .run cycles frame => m.run cycles frame
  | .reset => m.reset
  | .execute ins => m.execute ins

/-- Carry out operations one after the other, also past failed ones. -/
def applyAll (m : Machine) (cs : List Call) : Machine :=
  cs.foldl (fun m c => (m.apply c).machine) m

theorem applyAll_cons (m : Machine) (c : Call) (cs : List Call) :
    m.applyAll (c :: cs) = (m.apply c).machine.applyAll cs := rfl

theorem applyAll_append (m : Machine) (cs ds : List Call) :
    m.applyAll (cs ++ ds) = (m.applyAll cs).applyAll ds := by
  simp [applyAll]

end Machine

end Chip8
