import Chip8.CommandLine.Settings

/-!
# Reading a command line

Each argument is classified on its own: an option, perhaps shortened or with a value attached, an
operand, or nothing known. Then the options take their values from the operands behind them, in
order, and the first operand left over is the program. A shortened option must begin exactly one of
the options; behind `--` all arguments are operands.
-/

namespace Chip8.CommandLine

inductive Token where
  | operand (text : String)
  /-- The argument `--`, the first of its kind. -/
  | divider
  /-- An option, and the value attached to it by `=`. -/
  | flag (f : Flag) (attached : Option String)
  /-- The letter of the help option with more behind it. -/
  | letters (more : List Char)
  /-- An option of another program. -/
  | unknown (text : String)
deriving DecidableEq, Repr

namespace Token

/-- The text before the first `=`, and the text behind it if there is one. -/
def splitValue (cs : List Char) : List Char × Option (List Char) :=
  match cs.span (· ≠ '=') with
  | (before, []) => (before, none)
  | (before, _ :: value) => (before, some value)

/-- The options that begin with these characters. -/
def candidates (start : List Char) : List Flag :=
  Flag.all.filter fun f => start.isPrefixOf f.name.toList

def flagNamed? (cs : List Char) : Option Flag := Flag.all.find? fun f => f.name.toList = cs

/-- The letter of the help option with `more` behind it. An attached value is read like letters. -/
def behindLetter (more : List Char) : Token :=
  match more with
  | [] => .flag .help none
  | ['='] => .flag .help (some "")
  | '=' :: value => .letters value
  | more => .letters more

/-- An argument that begins with a dash and names no option: a negative number and a text with a
space in it are operands all the same. -/
def unmatched (text : String) : Token :=
  if Text.looksNegative text || text.toList.contains ' ' then .operand text else .unknown text

/-- Classify an argument other than `--`. -/
def classify (text : String) : Except UsageError Token :=
  let (name, value) := splitValue text.toList
  match text.toList with
  | '-' :: '-' :: _ =>
    match flagNamed? name with
    | some f => .ok (.flag f (value.map String.ofList))
    | none =>
      match candidates name with
      | [] => .ok (unmatched text)
      | [f] => .ok (.flag f (value.map String.ofList))
      | fs => .error (.ambiguous text fs)
  | '-' :: c :: more =>
    .ok (if c = Flag.helpLetter then behindLetter more else unmatched text)
  | _ => .ok (.operand text)

def classifyAll : List String → Except UsageError (List Token)
  | [] => .ok []
  | arg :: args =>
    if arg = "--" then .ok (.divider :: args.map .operand)
    else do return (← classify arg) :: (← classifyAll args)

end Token

/-! ## The whole line -/

/-- What is known while a command line is read. -/
structure Progress where
  rom : Option String := none
  settings : Settings := {}
  extras : List String := []

inductive Command where
  | run (rom : String) (settings : Settings)
  | help
deriving DecidableEq, Repr

namespace Progress

def extra (p : Progress) (text : String) : Progress := { p with extras := p.extras ++ [text] }

/-- Take an operand: the first is the program, the others are too many. -/
def operand (p : Progress) (text : String) : Progress :=
  match p.rom with
  | none => { p with rom := some text }
  | some _ => p.extra text

/-- Take the divider. It goes with the program if it stands next to it, otherwise it is too many. -/
def divider (p : Progress) (besideRom : Bool) : Progress :=
  if besideRom then p else p.extra "--"

/-- What stands behind the letter of the help option: the same letter any number of times, from
anything else on it is refused as a value. -/
def helpLetters : List Char → Except UsageError Command
  | [] => .ok .help
  | c :: cs =>
    if c = Flag.helpLetter then helpLetters cs
    else .error (.unexpectedValue .help (String.ofList (c :: cs)))

/-- Read the rest of a command line. -/
def finish (p : Progress) : List Token → Except UsageError Command
  | [] =>
    match p.rom with
    | none => .error .missingRom
    | some rom =>
      if p.extras = [] then .ok (.run rom p.settings) else .error (.unrecognized p.extras)
  | .operand text :: .divider :: rest => finish ((p.operand text).divider p.rom.isNone) rest
  | .operand text :: rest => finish (p.operand text) rest
  | .divider :: .operand text :: rest => finish ((p.divider p.rom.isNone).operand text) rest
  | .divider :: rest => finish (p.divider false) rest
  | .unknown text :: rest => finish (p.extra text) rest
  | .letters more :: _ => helpLetters more
  | .flag f (some value) :: rest =>
    match p.settings.attach f value with
    | .error e => .error e
    | .ok settings => finish { p with settings } rest
  | .flag f none :: rest =>
    if f = .help then .ok .help
    else if f.takesValue then
      match rest with
      | .operand value :: rest =>
        match p.settings.assign f value with
        | .error e => .error e
        | .ok settings => finish { p with settings } rest
      | _ => .error (.missingValue f)
    else finish { p with settings := p.settings.switch f } rest

end Progress

/-- What `main` is asked for, as the parser of `build_parser` reads it. -/
def parse (args : List String) : Except UsageError Command :=
  match Token.classifyAll args with
  | .error e => .error e
  | .ok tokens => ({} : Progress).finish tokens

end Chip8.CommandLine
