/-!
# Around a folder

A folder is a tree of files and directories that lies in a larger one, with a root and with links
that lead on from one spot to another. A spot is where a file or directory stands or could stand: in
the folder, or elsewhere at a route from the root.
-/

namespace Chip8

/-- Names of directories from the top down, then that of a file or directory. -/
abbrev Route := List String

namespace Folder

inductive Entry where
  | file (bytes : List UInt8)
  | dir
deriving DecidableEq

/-! ## Trees -/

structure Tree where
  files : List (Route × List UInt8)
  /-- The directories besides those that files lie in. -/
  dirs : List Route

/-- What stands at a route. A tree has the directories on the way to its files and directories. -/
def Tree.lookup? (t : Tree) (r : Route) : Option Entry :=
  match t.files.lookup r with
  | some bytes => some (.file bytes)
  | none =>
    if r.isEmpty || t.dirs.any (r.isPrefixOf ·)
      || t.files.any fun (f, _) => r.isPrefixOf f && r.length < f.length then some .dir
    else none

/-! ## The larger tree -/

inductive Spot where
  | inside (route : Route)
  | outside (route : Route)
deriving DecidableEq, Repr

/-- What a folder lies in. -/
structure Surroundings extends Tree where
  /-- The directory that the folder lies in. -/
  above : Route
  /-- Links outside the folder, and where they lead. -/
  links : List (Route × Spot)

namespace Surroundings

/-- The directory that a directory lies in. The root lies in itself. -/
def parent (s : Surroundings) : Spot → Spot
  | .inside [] => .outside s.above
  | .inside r => .inside r.dropLast
  | .outside r => .outside r.dropLast

/-- Where a name leads from a directory. -/
def child (s : Surroundings) (here : Spot) (name : String) : Spot :=
  match here with
  | .inside r => .inside (r ++ [name])
  | .outside r => (s.links.lookup (r ++ [name])).getD (.outside (r ++ [name]))

/-- The directories that a plain system has, and the one file that it has empty. -/
def plain : Surroundings where
  above := ["tmp"]
  files := [(["dev", "null"], [])]
  dirs :=
    [([], ["boot", "dev", "etc", "home", "media", "mnt", "opt", "proc", "root", "run", "srv", "sys",
        "tmp", "usr", "var"]),
      (["dev"], ["fd", "pts", "shm"]),
      (["etc"], ["init.d", "profile.d", "ssl"]),
      (["proc"], ["self", "sys"]),
      (["run"], ["lock"]),
      (["usr"], ["bin", "games", "include", "lib", "local", "sbin", "share", "src"]),
      (["usr", "local"], ["bin", "etc", "games", "include", "lib", "sbin", "share", "src"]),
      (["var"], ["backups", "cache", "lib", "local", "log", "mail", "opt", "spool", "tmp"])].flatMap
      fun (d, names) => names.map (d ++ [·])
  links :=
    [(["bin"], .outside ["usr", "bin"]),
     (["lib"], .outside ["usr", "lib"]),
     (["sbin"], .outside ["usr", "sbin"]),
     (["proc", "self", "cwd"], .inside []),
     (["proc", "self", "root"], .outside []),
     (["var", "lock"], .outside ["run", "lock"]),
     (["var", "run"], .outside ["run"])]

end Surroundings

end Folder

end Chip8
