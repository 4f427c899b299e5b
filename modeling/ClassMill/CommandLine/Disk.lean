import ClassMill.CommandLine.FileTree
import ClassMill.CommandLine.Path

/-!
# Disks

A disk holds a tree of directories and text files. There are no links, so a path leads where its
steps say and each file has one name; and what is written to a file is stored whole. Paths are
followed step by step, and every step but the last must lead to a directory; names and whole
paths have a greatest length. Making the directory of a path makes the missing directories above
it as well; where that fails midway, the directories made so far stay.
-/

namespace ClassMill.CommandLine

open ClassMill.CommandLine.Path

/-- The directories and files, and the directory where relative paths start. -/
structure Disk where
  tree : FileTree
  current : Location

namespace Disk

/-- The entry at a location. -/
def find? (d : Disk) (l : Location) : Option Entry := d.tree.find? l

/-- Puts an entry at a location. -/
def put (d : Disk) (l : Location) (e : Entry) : Disk := { d with tree := d.tree.put e l }

/-- Why a path cannot be followed. -/
inductive Obstacle
  | missing
  | notDirectory
  | tooLong
  deriving DecidableEq

/-- The greatest number of bytes in a name. -/
def nameLimit : Nat := 255

/-- The greatest number of bytes in a path. -/
def pathLimit : Nat := 4095

/-- One step from the directory at a location. -/
def advance (l : Location) : Step → Except Obstacle Location
  | .here => .ok l
  | .up => .ok l.dropLast
  | .name letters =>
    if letters.utf8ByteSize ≤ nameLimit then .ok (l ++ [letters]) else .error .tooLong

/-- Follows steps from a location. The last one may lead to a place that holds nothing. -/
def follow (d : Disk) (l : Location) : List Step → Except Obstacle Location
  | [] => .ok l
  | step :: rest =>
    match d.find? l with
    | none => .error .missing
    | some (.file _) => .error .notDirectory
    | some .directory =>
      match advance l step with
      | .ok l => d.follow l rest
      | .error obstacle => .error obstacle

/-- The location where a path starts. -/
def start (d : Disk) (path : String) : Location := if isAbsolute path then [] else d.current

/-- The location of a file at a path, whether or not there is one. -/
def locate (d : Disk) (path : String) : Except Obstacle Location :=
  if path.utf8ByteSize ≤ pathLimit then d.follow (d.start path) (fileSteps path)
  else .error .tooLong

/-- The text of the file at a path. -/
def read? (d : Disk) (path : String) : Option String :=
  match d.locate path with
  | .ok l =>
    match d.find? l with
    | some (.file text) => some text
    | _ => none
  | .error _ => none

/-- The disk with a text at a path, unless the path leads nowhere or to a directory. -/
def write? (d : Disk) (path text : String) : Option Disk :=
  match d.locate path with
  | .ok l => if d.find? l = some .directory then none else some (d.put l (.file text))
  | .error _ => none

/-- Makes a directory at a location, or finds it there; tells whether it is there now. -/
def ensureDirectory (d : Disk) (l : Location) : Disk × Bool :=
  match d.find? l with
  | none => (d.put l .directory, true)
  | some e => (d, e = .directory)

/-- Makes the directories that are missing along moves; tells whether all are there now. -/
def makeAlong (d : Disk) (l : Location) : (moves : List Step) → Disk × Bool
  | [] => (d, true)
  | move :: rest =>
    match advance l move with
    | .error _ => (d, false)
    | .ok l =>
      match d.ensureDirectory l with
      | (d, true) => d.makeAlong l rest
      | (d, false) => (d, false)

/-- Makes the directory that the steps from a location lead to; tells whether it is there
now. -/
def makeLast (d : Disk) (l : Location) (steps : List Step) : Disk × Bool :=
  match d.follow l steps with
  | .ok l => d.ensureDirectory l
  | .error _ => (d, false)

/-- Makes the directory of a path and those above it; tells whether it is there now. A path
that ends in a single dot needs the directory before the dot to be there already, since the
dot is not a move. -/
def makeDirectories (d : Disk) (path : String) : Disk × Bool :=
  if path.utf8ByteSize ≤ pathLimit then
    match d.makeAlong (d.start path) (moves path).dropLast with
    | (d, true) => d.makeLast (d.start path) (steps path)
    | (d, false) => (d, false)
  else (d, false)

end Disk

end ClassMill.CommandLine
