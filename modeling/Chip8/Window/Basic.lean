import Chip8.Keyboard
import Chip8.Machine.Step
import Chip8.Picture
import Chip8.Window.Request

/-!
# The window

A window runs a machine frame by frame and shows its display. It takes events, frames and keys among
them, and answers each with requests to the toolkit. The toolkit may be gone: it then refuses every
request, and the first refusal in a frame closes the window. A window that is closing asks for
nothing more.
-/

namespace Chip8

structure Window where
  machine : Machine
  /-- The side of a pixel on the canvas. -/
  scale : Int
  /-- Steps in a frame. -/
  ticksPerFrame : Int
  /-- The fault that stopped the machine. -/
  error : Option Fault
  closing : Bool
  /-- The toolkit was asked for a frame that has not come yet. -/
  pending : Bool
  /-- The toolkit still takes requests. -/
  alive : Bool
deriving DecidableEq

namespace Window

/-- The answer to an event: the window after it, what the toolkit was asked and did, the request
that it refused, the error that the handler raised, and what was logged. -/
structure Reply where
  window : Window
  requests : List Request := []
  refused : Option Request := none
  error : Option Error := none
  log : List Log.Entry := []

abbrev defaultScale : Int := 10

abbrev frameMilliseconds : Nat := 16

abbrev defaultTitle : String := "CHIP-8"

def create (machine : Machine) (scale ticksPerFrame : Int) (title : String) : Reply where
  window :=
    { machine, scale, ticksPerFrame, error := none, closing := false, pending := false,
      alive := true }
  requests :=
    [.create, .title title, .resizable false false,
     .canvas (Bitmap.width * scale) (Bitmap.height * scale) "black", .pack {},
     .label "" "Courier" 9 "w", .pack { fill := some "x", padX := some 5, padY := some 2 },
     .bind "<KeyPress>", .bind "<KeyRelease>", .protocol "WM_DELETE_WINDOW", .focus]

/-! ## Closing -/

/-- `close` does its work once. -/
def close (w : Window) : Reply :=
  if w.closing then { window := w }
  else
    let w := { w with closing := true }
    if w.alive then { window := w, requests := [.quit, .destroy] }
    else { window := w, refused := some .quit, error := some .windowGone }

/-! ## Frames -/

/-- The loop of `run_frame`: at most `n` steps, fewer if one fails. -/
def stepUpTo : Nat → Machine → Outcome
  | 0, m => .done m
  | n + 1, m =>
    let o := m.step
    match o.error with
    | some _ => o
    | none => stepUpTo n o.machine

open Text (hex) in
def statusText (m : Machine) : String :=
  "PC: 0x" ++ hex 3 m.pc ++ "  I: 0x" ++ hex 3 m.index

/-- `run_frame`: the steps of a frame, then a tick of the timers, and the bell if the sound was off
before and is on after it. A crashed machine stays as it is. -/
def advance (w : Window) : Reply :=
  if w.machine.crashed then { window := w }
  else
    let o := stepUpTo w.ticksPerFrame.toNat w.machine
    match o.error with
    | none =>
      let m := o.machine.tick
      let bell := if m.soundActive && !w.machine.soundActive then [.bell] else []
      { window := { w with machine := m }, requests := bell ++ [.status (statusText m)] }
    | some (.fault f) =>
      { window := { w with machine := o.machine, error := some f }
        requests := [.status ("CRASHED: " ++ f.message)]
        log := o.log ++ [.stopped f] }
    | some e => { window := { w with machine := o.machine }, error := some e, log := o.log }

/-- The square of a lit pixel on the canvas. -/
def square (scale : Int) (pixel : Fin Bitmap.width × Fin Bitmap.height) : Request :=
  let x := pixel.1.val * scale
  let y := pixel.2.val * scale
  .rectangle x y (x + scale) (y + scale) "white" "white"

/-- `draw`: the canvas is cleared before the first square. -/
def picture (w : Window) : List Request := .clear :: w.machine.display.lit.map (square w.scale)

/-- `_update`: advance the machine, draw its display and ask for the next frame. With the toolkit
gone the machine still advances, but the first request is refused and the window closes. -/
def frame (w : Window) : Reply :=
  if w.closing then { window := w }
  else
    let r := w.advance
    match r.error with
    | some _ => r
    | none =>
      let asked := r.requests ++ r.window.picture ++ [.after frameMilliseconds]
      if w.alive then { r with window := { r.window with pending := true }, requests := asked }
      else
        { r with
          window := { r.window with closing := true }
          requests := []
          refused := asked.head? }

/-! ## Events -/

inductive Event where
  /-- The time of the pending frame has come. -/
  | frame
  /-- The user closes the window. -/
  | close
  | press (symbol : String)
  | release (symbol : String)
  /-- The toolkit goes away. -/
  | kill
deriving DecidableEq, Repr

/-- `_key_press` and `_key_release`: pass a key to the machine, if the symbol stands for one. -/
def setKey (w : Window) (symbol : String) (down : Bool) : Reply :=
  match Keyboard.key? symbol with
  | none => { window := w }
  | some key =>
    let o := w.machine.setKey key.val down
    { window := { w with machine := o.machine }, error := o.error, log := o.log }

def handle (w : Window) : Event → Reply
  | .frame => if w.pending then { w with pending := false }.frame else { window := w }
  | .close => w.close
  | .press symbol => if symbol = "Escape" then w.close else w.setKey symbol true
  | .release symbol => w.setKey symbol false
  | .kill => { window := { w with alive := false } }

/-! ## Sessions -/

def handleAll (w : Window) : List Event → List Reply
  | [] => []
  | e :: es =>
    let r := w.handle e
    r :: handleAll r.window es

/-- What a session leaves: the answers, beginning with that of the first frame, and the window. -/
structure Session where
  replies : List Reply
  window : Window

/-- The answer with requests that do not depend on the scale. -/
def Reply.unscaled (r : Reply) : Reply :=
  { r with requests := r.requests.map Request.unscaled, refused := r.refused.map Request.unscaled }

def Session.unscaled (s : Session) : Session := { s with replies := s.replies.map Reply.unscaled }

/-- `mainloop` over all events. The window counts as closing afterwards. -/
def session (w : Window) (events : List Event) : Session :=
  let first := w.frame
  let replies := first :: handleAll first.window events
  let last := (replies.getLastD first).window
  { replies, window := { last with closing := true } }

end Window

end Chip8
