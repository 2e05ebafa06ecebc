import Chip8.Error
import Chip8.Folder.Surroundings

/-!
# Folders

A working directory with files and further directories, and paths that lead through it: from
directory to directory, where `.` stays and `..` goes back. Absolute paths begin outside the folder,
at the root, and `..` may lead out of it.
-/

namespace Chip8

/-- A tree of files, and what it lies in: a plain system, unless a caller knows better. -/
structure Folder extends Folder.Tree where
  around : Folder.Surroundings := .plain

namespace Folder

/-- What a path leads to. -/
inductive Place where
  | file (spot : Spot) (bytes : List UInt8)
  | dir
  /-- A name not in use, in a directory that exists. -/
  | vacant (spot : Spot)
deriving DecidableEq

/-! ## Paths -/

abbrev maxPath : Nat := 4095

abbrev maxName : Nat := 255

/-- Refuse a text that cannot be a path. -/
def checkPath (path : String) : Except Error Unit :=
  if path.toList.contains '\x00' then .error .nullInPath
  else if maxPath < path.utf8ByteSize then .error (.nameTooLong path)
  else .ok ()

/-- The parts of a text between slashes. -/
def parts : List Char → List (List Char)
  | [] => [[]]
  | '/' :: cs => [] :: parts cs
  | c :: cs =>
    match parts cs with
    | [] => [[c]]
    | w :: ws => (c :: w) :: ws

def names (path : String) : List String := (parts path.toList).map String.ofList

/-! ## Following a path -/

def entry? (d : Folder) : Spot → Option Entry
  | .inside r => d.lookup? r
  | .outside r => d.around.lookup? r

/-- Follow the names of a path from a directory. -/
def follow (d : Folder) (path : String) (here : Spot) : List String → Except Error Place
  | [] => .ok .dir
  | name :: rest =>
    if name = "" ∨ name = "." then follow d path here rest
    else if name = ".." then follow d path (d.around.parent here) rest
    else if maxName < name.utf8ByteSize then .error (.nameTooLong path)
    else
      let there := d.around.child here name
      match d.entry? there with
      | some .dir => follow d path there rest
      | some (.file bytes) =>
        if rest = [] then .ok (.file there bytes) else .error (.notDirectory path)
      | none => if rest = [] then .ok (.vacant there) else .error (.noSuchFile path)

def locate (d : Folder) (path : String) : Except Error Place := do
  checkPath path
  match names path with
  | [""] => .error (.noSuchFile path)
  | "" :: ns => d.follow path (.outside []) ns
  | ns => d.follow path (.inside []) ns

/-- `read_rom`: the bytes of the file that a path leads to. -/
def read (d : Folder) (path : String) : Except Error (List UInt8) := do
  match ← d.locate path with
  | .file _ bytes => return bytes
  | .dir => throw (.isDirectory path)
  | .vacant _ => throw (.noSuchFile path)

/-- Where a file would be written. -/
def target (d : Folder) (path : String) : Except Error Spot := do
  match ← d.locate path with
  | .file spot _ | .vacant spot => return spot
  | .dir => throw (.isDirectory path)

/-! ## Names of files -/

def baseName (path : String) : String := (names path).getLastD ""

/-- The extension of a path: its last name from the last dot on, unless nothing but dots stands
before that one. -/
def extension (path : String) : String :=
  let name := (baseName path).toList
  let stem := (name.reverse.dropWhile (· ≠ '.')).drop 1
  if stem.all (· = '.') then "" else String.ofList (name.drop stem.length)

example : extension "a/b.x.png" = ".png" := by decide +kernel
example : extension ".png" = "" := by decide +kernel

end Folder

end Chip8
