import Chip8.Window.Basic

/-!
# Windows over text

A window toolkit behind two streams of text: it sends events, one a line, and is sent requests in
the same way. Texts stand at the end of a line, so that they may hold blanks.
-/

namespace Chip8.Window

def Event.ofLine? (line : String) : Option Event :=
  match line.toList with
  | ['f', 'r', 'a', 'm', 'e'] => some .frame
  | ['c', 'l', 'o', 's', 'e'] => some .close
  | ['k', 'i', 'l', 'l'] => some .kill
  | 'p' :: 'r' :: 'e' :: 's' :: 's' :: ' ' :: symbol => some (.press (String.ofList symbol))
  | 'r' :: 'e' :: 'l' :: 'e' :: 'a' :: 's' :: 'e' :: ' ' :: symbol =>
    some (.release (String.ofList symbol))
  | _ => none

def Layout.words (l : Layout) : List String :=
  (l.fill.map ("fill " ++ ·)).toList ++ (l.padX.map fun p => "padx " ++ toString p).toList
    ++ (l.padY.map fun p => "pady " ++ toString p).toList

def Request.line (r : Request) : String :=
  " ".intercalate <|
    match r with
    | create => ["create"]
    | title text => ["title", text]
    | resizable w h => ["resizable", toString w, toString h]
    | canvas w h background => ["canvas", toString w, toString h, background]
    | bareCanvas background => ["canvas", background]
    | label text family size anchor => ["label", family, toString size, anchor, text]
    | pack l => "pack" :: l.words
    | bind event => ["bind", event]
    | protocol name => ["protocol", name]
    | focus => ["focus"]
    | status text => ["status", text]
    | clear => ["clear"]
    | rectangle x₁ y₁ x₂ y₂ fill outline =>
      ["rectangle", toString x₁, toString y₁, toString x₂, toString y₂, fill, outline]
    | bareRectangle fill outline => ["rectangle", fill, outline]
    | after ms => ["after", toString ms]
    | bell => ["bell"]
    | quit => ["quit"]
    | destroy => ["destroy"]

end Chip8.Window
