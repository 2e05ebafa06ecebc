import Chip8.CommandLine.Run
import Chip8.Window.Wire

/-!
# The program

Reads the program file, hands it to the command line and carries out what the report says: prints
its lines, saves its picture, writes its log. A window is played over the standard streams: events
come in, and requests to the toolkit go out.
-/

namespace Chip8

def withFile {α : Type} (path : String) (act : IO α) : IO (Except Error α) := do
  match Folder.checkPath path with
  | .error e => return .error e
  | .ok () =>
    try
      return .ok (← act)
    catch e =>
      match e with
      | .noFileOrDirectory .. => return .error (.noSuchFile path)
      | e => throw e

def readFile (path : String) : IO (Except Error (List UInt8)) :=
  withFile path do return (← IO.FS.readBinFile path).toList

def writePicture (path : String) (image : Image) : IO (Except Error Unit) := do
  match (Picture.support path).bind (·.formatOf image) with
  | .error e => return .error e
  | .ok format =>
    match format.encode? image with
    | none => return .error (.writerMissing format.name)
    | some bytes => withFile path (IO.FS.writeBinFile path (ByteArray.mk bytes.toArray))

def readEvents : IO (List Window.Event) := do
  let input ← (← IO.getStdin).readToEnd
  return (input.splitOn "\n").filterMap Window.Event.ofLine?

/-- Print a report, and give its status. -/
def conclude (r : CommandLine.Report) : IO UInt32 := do
  for line in r.logLines do IO.eprintln line
  IO.print r.output
  if let some (opening, session) := r.session then
    for request in opening ++ session.replies.flatMap Window.Reply.requests do
      IO.println request.line
  match r.result with
  | .ok status => return status.toUInt32
  | .error e =>
    IO.eprintln e.message
    return 1

/-- Run a program as the command line says. -/
def runProgram (rom : String) (s : CommandLine.Settings) : IO UInt32 := do
  let bytes ← readFile rom
  let events ← if s.headless then pure [] else readEvents
  let r := CommandLine.runProgram rom s events bytes
  match r.picture with
  | none => conclude r
  | some (path, image) => conclude (r.saved path (← writePicture path image))

end Chip8

open Chip8 in
def main (args : List String) : IO UInt32 := do
  match CommandLine.parse args with
  | .error e =>
    for line in CommandLine.usageLines do IO.eprintln line
    IO.eprintln ("chip8vm: error: " ++ e.message)
    return 2
  | .ok .help =>
    for line in CommandLine.helpLines do IO.println line
    return 0
  | .ok (.run rom s) => Chip8.runProgram rom s
