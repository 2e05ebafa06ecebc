import Chip8.CommandLine.Flag
import Chip8.Machine.Step
import Chip8.Text.Integer
import Chip8.Window.Basic

/-!
# Settings

What the options of a command line choose, with the choices made when they are not given. A value of
two dashes leaves the setting blank, and nothing is said about it until the setting is needed.
-/

namespace Chip8.CommandLine

abbrev defaultCycles : Int := 5000

abbrev defaultScale : Int := Window.defaultScale

/-- The choices. A scale, a frame length, a number of steps and a log level may be blank. -/
structure Settings where
  scale : Option Int := some defaultScale
  ticksPerFrame : Option Int := some Machine.ticksPerFrame
  seed : Option Int := none
  headless : Bool := false
  cycles : Option Int := some defaultCycles
  png : Option String := none
  text : Bool := false
  logLevel : Option Log.Level := some .warning
deriving DecidableEq, Repr

/-- An integer that is given to an option, by `positive_int` if it has to be positive. -/
def readInteger (f : Flag) (kind : Number) (value : String) : Except UsageError Int :=
  match Text.integer? value with
  | none => .error (.notInteger f kind value)
  | some z => if kind = .positive ∧ z < 1 then .error (.notPositive f value) else .ok z

namespace Settings

def assign (s : Settings) (f : Flag) (value : String) : Except UsageError Settings :=
  match f with
  | .scale => do return { s with scale := some (← readInteger f .positive value) }
  | .ticksPerFrame => do
    return { s with ticksPerFrame := some (← readInteger f .positive value) }
  | .seed => do return { s with seed := some (← readInteger f .any value) }
  | .cycles => do return { s with cycles := some (← readInteger f .any value) }
  | .png => .ok { s with png := some value }
  | .logLevel =>
    match levels.lookup value with
    | some l => .ok { s with logLevel := some l }
    | none => .error (.noLevel f value)
  | .help | .headless | .text => .error (.unexpectedValue f value)

/-- What leaves a setting blank. -/
abbrev blankValue : String := "--"

/-- The settings with the value of an option left blank: without a seed or a picture, or without
something that a run needs. -/
def clear (s : Settings) : Flag → Settings
  | .scale => { s with scale := none }
  | .ticksPerFrame => { s with ticksPerFrame := none }
  | .seed => { s with seed := none }
  | .cycles => { s with cycles := none }
  | .png => { s with png := none }
  | .logLevel => { s with logLevel := none }
  | .help | .headless | .text => s

/-- The settings with a value in them that is attached to its option. -/
def attach (s : Settings) (f : Flag) (value : String) : Except UsageError Settings :=
  if f.takesValue ∧ value = blankValue then .ok (s.clear f) else s.assign f value

def switch (s : Settings) : Flag → Settings
  | .headless => { s with headless := true }
  | .text => { s with text := true }
  | _ => s

end Settings

end Chip8.CommandLine
