/-
# Trees of files

A file system as a tree of directories. A path is followed name by name: from a directory to one of
its entries or, for two points, to the directory above. The order of the faults is that of the
walk, so a missing directory is noticed before a name after it that is too long.
-/

import TransitHub.Config.Source

namespace TransitHub

/-- A file or a directory with named entries. -/
inductive FileTree
  | file (content : String)
  | directory (entries : List (String × FileTree))

namespace FileTree

instance : Inhabited FileTree := ⟨directory []⟩

/-- The most bytes of a name. -/
def nameLimit : Nat := 255

/-- The most bytes of a path. -/
def pathLimit : Nat := 4095

/-- What names lead to from a place, given the directories above it, innermost first. No name and
one point stay; above the root there is only the root. -/
def walk (place : FileTree) (above : List FileTree) : List String → Except ReadFault FileTree
  | [] => .ok place
  | name :: names =>
    match place with
    | file _ => .error .notDirectory
    | directory entries =>
      if name = "" ∨ name = "." then walk place above names
      else if name = ".." then
        match above with
        | [] => walk place [] names
        | parent :: above => walk parent above names
      else if nameLimit < name.utf8ByteSize then .error .nameTooLong
      else
        match entries.lookup name with
        | none => .error .missing
        | some next => walk next (place :: above) names

/-- What a path leads to: from the root if it starts with a slash, and else from a directory that
the root holds. -/
def find? (root current : FileTree) (path : String) : Except ReadFault FileTree :=
  if path.contains '\x00' then .error .nulInPath
  else if path.isEmpty then .error .missing
  else if pathLimit < path.utf8ByteSize then .error .nameTooLong
  else
    let names := path.splitOn "/"
    if path.startsWith "/" then walk root [] names else walk current [root] names

/-- The files of a tree by path. -/
def files (root current : FileTree) : FileSystem := fun path =>
  match find? root current path with
  | .error fault => .error fault
  | .ok (directory _) => .error .directory
  | .ok (file content) => .ok content

end FileTree

end TransitHub
