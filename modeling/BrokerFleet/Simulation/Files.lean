import BrokerFleet.Text.Cut

/-! # Files

A small tree of directories and files, and what keeps the file at a path from being read. -/

namespace BrokerFleet.Simulation

open Text

/-- A directory with its entries, or a file. -/
inductive FileTree where
  | directory (entries : List (String × FileTree))
  | file

/-- Why the file at a path cannot be read. -/
inductive FileFailure where
  | nul
  | missing
  | notDirectory
  | isDirectory
  | nameTooLong
  deriving DecidableEq, Repr

namespace FileFailure

def message : FileFailure → String
  | nul => "file name contained an unexpected NUL byte"
  | missing => "No such file or directory (os error 2)"
  | notDirectory => "Not a directory (os error 20)"
  | isDirectory => "Is a directory (os error 21)"
  | nameTooLong => "File name too long (os error 36)"

end FileFailure

namespace FileTree

def empty : FileTree := directory []

/-- The directory where paths start. -/
def root : FileTree := directory [
  ("bin", empty), ("boot", empty), ("dev", directory [("null", file)]),
  ("etc", directory [("group", file), ("hostname", file), ("hosts", file), ("passwd", file)]),
  ("home", empty), ("lib", empty), ("media", empty), ("mnt", empty), ("opt", empty),
  ("proc", empty), ("root", empty), ("run", empty), ("sbin", empty), ("srv", empty), ("sys", empty),
  ("tmp", empty),
  ("usr", directory [("bin", empty), ("lib", empty), ("local", empty), ("share", empty)]),
  ("var", directory [("lib", empty), ("log", empty), ("run", empty), ("tmp", empty)])]

def nameLimit : Nat := 255

def pathLimit : Nat := 4095

/-- Follows names from a tree whose ancestors are given, nearest first. -/
def follow : List FileTree → FileTree → List String → Except FileFailure FileTree
  | _, tree, [] => .ok tree
  | _, file, _ :: _ => .error .notDirectory
  | above, directory entries, name :: names =>
    if name = "" ∨ name = "." then follow above (directory entries) names
    else if name = ".." then
      match above with
      | [] => follow [] (directory entries) names
      | parent :: above => follow above parent names
    else if name.utf8ByteSize > nameLimit then .error .nameTooLong
    else match entries.lookup name with
      | some tree => follow (directory entries :: above) tree names
      | none => .error .missing

/-- What keeps the file at a path from being read, if anything does. Paths that do not start at the
root start at an empty directory below it. -/
def readFailure? (path : String) : Option FileFailure :=
  let chars := path.toList
  let (above, start) := if chars.head? = some '/' then ([], root) else ([root], empty)
  if '\x00' ∈ chars then some .nul
  else if path.utf8ByteSize > pathLimit then some .nameTooLong
  else match follow above start ((splitOn '/' chars).map String.ofList) with
    | .error e => some e
    | .ok (directory _) => some .isDirectory
    | .ok file => none

end FileTree

end BrokerFleet.Simulation
