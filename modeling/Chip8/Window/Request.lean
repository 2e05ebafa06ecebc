/-!
# Requests to the window toolkit

Everything that a window asks of the toolkit, in the words of the toolkit: widgets and their layout,
handlers, the status line, rectangles on the canvas, timers.
-/

namespace Chip8.Window

structure Layout where
  fill : Option String := none
  padX : Option Nat := none
  padY : Option Nat := none
deriving DecidableEq, Repr

inductive Request where
  | create
  | title (text : String)
  | resizable (width height : Bool)
  | canvas (width height : Int) (background : String)
  /-- A canvas of no particular size. -/
  | bareCanvas (background : String)
  | label (text fontFamily : String) (fontSize : Nat) (anchor : String)
  | pack (layout : Layout)
  /-- Pass events of this name to the window. -/
  | bind (event : String)
  /-- Pass messages of the window manager to the window. -/
  | protocol (name : String)
  | focus
  /-- Change the text of the label. -/
  | status (text : String)
  | clear
  /-- Draw a rectangle without its right and lower edge. -/
  | rectangle (x₁ y₁ x₂ y₂ : Int) (fill outline : String)
  /-- Draw a rectangle at no particular place. -/
  | bareRectangle (fill outline : String)
  /-- Ask for the next frame. -/
  | after (milliseconds : Nat)
  | bell
  | quit
  | destroy
deriving DecidableEq, Repr

/-- The request without the lengths that depend on the scale. -/
def Request.unscaled : Request → Request
  | canvas _ _ background => bareCanvas background
  | rectangle _ _ _ _ fill outline => bareRectangle fill outline
  | r => r

end Chip8.Window
