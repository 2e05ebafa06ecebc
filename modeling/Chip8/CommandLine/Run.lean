import Chip8.CommandLine.Help
import Chip8.CommandLine.Parse
import Chip8.Machine.Program
import Chip8.Picture.File

/-!
# Running a command line

A command line names a program, which is read, loaded and run, in a window or without one. What it
prints and the status it ends with are collected in a report. A run without a window ends with the
number of instructions executed and the program counter, then the display in the forms asked for. A
setting that was left blank stops a run where it is needed.
-/

namespace Chip8.CommandLine

/-- What a command line has done. -/
structure Report where
  /-- The lines printed. -/
  printed : List String := []
  log : List Log.Entry := []
  /-- The least level of the log that is shown. -/
  level : Log.Level := .warning
  /-- The status it ended with, or the error that nothing caught. -/
  result : Except Error Nat
  /-- Why the command line was not understood. -/
  usage : Option UsageError := none
  /-- The machine as the run left it. -/
  machine : Option Machine := none
  /-- What opening the window asked of the toolkit, and the session in it. -/
  session : Option (List Window.Request × Window.Session) := none
  /-- The picture to be saved, and its path. -/
  picture : Option (String × Image) := none
  /-- The file that the picture was saved in. -/
  file : Option Picture.File := none

namespace Report

def output (r : Report) : String := String.join (r.printed.map (· ++ "\n"))

def logLines (r : Report) : List String := Log.lines r.level r.log

/-- A report behind what was printed and logged earlier. -/
def after (r : Report) (printed : List String) (log : List Log.Entry) : Report :=
  { r with printed := printed ++ r.printed, log := log ++ r.log }

/-- The report once the picture was saved under its path, or could not be. -/
def saved (r : Report) (path : String) (outcome : Except Error Unit) : Report :=
  match outcome with
  | .ok () => { r with printed := r.printed ++ ["Display saved to: " ++ path] }
  | .error e => { r with result := .error e }

end Report

/-! ## Without a window -/

/-- What `run_headless` prints of the machine, also behind a fault. -/
def summary (m : Machine) : List String :=
  ["Instructions executed: " ++ toString m.cycles, "Program counter: 0x" ++ Text.hex 3 m.pc]

def stopLine (f : Fault) : String := "Emulation stopped: " ++ f.message

/-- The picture that the settings ask for, with its path; an empty path asks for none. -/
def wantedPicture (s : Settings) (m : Machine) : Except Error (Option (String × Image)) :=
  match s.png, s.scale with
  | none, _ | some "", _ => .ok none
  | some _, none => .error .blankScale
  | some path, some scale => (m.display.image scale).map fun image => some (path, image)

/-- The end of a run without a window. -/
def concluded (s : Settings) (m : Machine) (status : Nat) : Report :=
  let printed := summary m ++ if s.text then [m.display.text Bitmap.onText Bitmap.offText] else []
  match wantedPicture s m with
  | .ok picture => { printed, result := .ok status, machine := some m, picture }
  | .error e => { printed, result := .error e, machine := some m }

/-- `run_headless` on a loaded machine. A blank frame length is noticed before a blank count. -/
def runHeadless (s : Settings) (m : Machine) : Report :=
  match s.ticksPerFrame, s.cycles with
  | none, _ => { result := .error .blankFrame, machine := some m }
  | some _, none => { result := .error .blankCount, machine := some m }
  | some frame, some cycles =>
    let o := m.run cycles frame
    match o.error with
    | none => (concluded s o.machine 0).after [] o.log
    | some (.fault f) => (concluded s o.machine 1).after [stopLine f] o.log
    | some e => { log := o.log, result := .error e, machine := some o.machine }

/-! ## In a window -/

def windowTitle (rom : String) : String := "CHIP-8: " ++ Folder.baseName rom

/-- The report of a session in a window that was opened with these requests. -/
def shown (opening : List Window.Request) (session : Window.Session) : Report where
  log := session.replies.flatMap Window.Reply.log
  result := .ok (if session.window.error.isSome then 1 else 0)
  machine := some session.window.machine
  session := some (opening, session)

/-- Run a loaded machine in a window of a given scale, with the events that come from its user. A
blank frame length is noticed in the first frame, before anything is done. -/
def runScaled (rom : String) (scale : Int) (s : Settings) (m : Machine)
    (events : List Window.Event) : Report :=
  match s.ticksPerFrame with
  | some ticks =>
    let opened := Window.create m scale ticks (windowTitle rom)
    shown opened.requests (opened.window.session events)
  | none =>
    let opened := Window.create m scale 0 (windowTitle rom)
    { shown opened.requests ⟨[], opened.window⟩ with result := .error .blankCount }

/-- The report with requests that do not depend on the scale. -/
def Report.unscaled (r : Report) : Report :=
  { r with session := r.session.map fun (opening, session) =>
      (opening.map Window.Request.unscaled, session.unscaled) }

/-- `run_window` on a loaded machine. -/
def runWindow (rom : String) (s : Settings) (m : Machine) (events : List Window.Event) : Report :=
  match s.scale with
  | some scale => runScaled rom scale s m events
  | none => (runScaled rom defaultScale s m events).unscaled

/-! ## Altogether -/

/-- Load a program of the given bytes and run it. -/
def runBytes (rom : String) (s : Settings) (events : List Window.Event) (bytes : List UInt8) :
    Report :=
  match Machine.new s.seed with
  | .error e => { result := .error e }
  | .ok made =>
    let loaded := made.machine.load (.bytes bytes)
    let log := made.log ++ loaded.log
    match loaded.error with
    | some (.fault f) => { printed := ["Error loading ROM: " ++ f.message], log, result := .ok 2 }
    | some e => { log, result := .error e }
    | none =>
      let r :=
        if s.headless then runHeadless s loaded.machine
        else runWindow rom s loaded.machine events
      r.after ["Loaded ROM: " ++ rom ++ " (" ++ toString bytes.length ++ " bytes)"] log

/-- Run a program, or tell why it could not be read. -/
def runProgram (rom : String) (s : Settings) (events : List Window.Event)
    (bytes : Except Error (List UInt8)) : Report :=
  match s.logLevel with
  | none => { result := .error .blankLevel }
  | some level =>
    let r : Report :=
      match bytes with
      | .ok bytes => runBytes rom s events bytes
      | .error (.noSuchFile path) =>
        { printed := ["ROM file not found: " ++ path], result := .ok 2 }
      | .error e => { result := .error e }
    { r with level }

def Report.saveIn (r : Report) (folder : Folder) : Report :=
  match r.picture with
  | none => r
  | some (path, image) =>
    let file := Picture.file folder path image
    { r.saved path (file.map fun _ => ()) with file := file.toOption }

/-- `main`: carry out a command line in a folder. -/
def run (folder : Folder) (args : List String) (events : List Window.Event) : Report :=
  match parse args with
  | .error e => { result := .ok 2, usage := some e }
  | .ok .help => { printed := helpLines, result := .ok 0 }
  | .ok (.run rom s) => (runProgram rom s events (folder.read rom)).saveIn folder

end Chip8.CommandLine
