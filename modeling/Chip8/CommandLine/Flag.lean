import Chip8.Log
import Chip8.Text.Quoted

/-!
# Options

The options of the command line, and what a wrong use of them is called.
-/

namespace Chip8.CommandLine

inductive Flag where
  | help | scale | ticksPerFrame | seed | headless | cycles | png | text | logLevel
deriving DecidableEq, Repr

namespace Flag

/-- All options, in the order of the help text. -/
def all : List Flag := [help, scale, ticksPerFrame, seed, headless, cycles, png, text, logLevel]

theorem mem_all (f : Flag) : f ∈ all := by cases f <;> decide

def name : Flag → String
  | help => "--help"
  | scale => "--scale"
  | ticksPerFrame => "--ticks-per-frame"
  | seed => "--seed"
  | headless => "--headless"
  | cycles => "--cycles"
  | png => "--png"
  | text => "--text"
  | logLevel => "--log-level"

/-- The one option that also has a letter. -/
def helpLetter : Char := 'h'

/-- All the ways to write an option, as messages have them. -/
def title : Flag → String
  | help => "-h/--help"
  | f => f.name

def takesValue : Flag → Bool
  | help | headless | text => false
  | _ => true

end Flag

/-- The kinds of integer that options take, by the name that messages give them. -/
inductive Number where
  | any | positive
deriving DecidableEq, Repr

def Number.name : Number → String
  | any => "int"
  | positive => "positive_int"

inductive UsageError where
  | missingRom
  | unrecognized (arguments : List String)
  /-- A shortened option that several options begin with. -/
  | ambiguous (argument : String) (matching : List Flag)
  | missingValue (f : Flag)
  /-- A value for an option that takes none. -/
  | unexpectedValue (f : Flag) (value : String)
  | notInteger (f : Flag) (kind : Number) (value : String)
  | notPositive (f : Flag) (value : String)
  | noLevel (f : Flag) (value : String)
deriving DecidableEq, Repr

def levels : List (String × Log.Level) :=
  [Log.Level.debug, .info, .warning, .error].map fun l => (l.name, l)

open Text (quoted) in
def UsageError.message : UsageError → String
  | missingRom => "the following arguments are required: rom"
  | unrecognized arguments => "unrecognized arguments: " ++ " ".intercalate arguments
  | ambiguous argument matching =>
    "ambiguous option: " ++ argument ++ " could match "
      ++ ", ".intercalate (matching.map Flag.name)
  | missingValue f => about f "expected one argument"
  | unexpectedValue f value => about f ("ignored explicit argument " ++ quoted value)
  | notInteger f kind value => about f ("invalid " ++ kind.name ++ " value: " ++ quoted value)
  | notPositive f value => about f ("expected a positive integer, got " ++ value)
  | noLevel f value =>
    about f ("invalid choice: " ++ quoted value ++ " (choose from "
      ++ ", ".intercalate (levels.map fun l => quoted l.1) ++ ")")
where
  about (f : Flag) (what : String) : String := "argument " ++ f.title ++ ": " ++ what

end Chip8.CommandLine
