/-!
# Paths

A path is a text whose parts are separated by slashes; one that starts with a slash is
absolute. Joining a path to another appends it unless it is absolute. Empty parts mean nothing
when a path is followed, a single dot stays where it is, and two dots lead one level up.
-/

namespace ClassMill.CommandLine.Path

/-- Whether a path starts at the top. -/
def isAbsolute (path : String) : Bool := path.toList.head? = some '/'

/-- Whether a path ends in a slash. -/
def endsInSlash (path : String) : Bool := path.toList.getLast? = some '/'

/-- The path `path` as seen from `base`. -/
def join (base path : String) : String :=
  if isAbsolute path then path
  else if base.isEmpty || endsInSlash base then base ++ path
  else base ++ "/" ++ path

/-- One step along a path. -/
inductive Step
  | here
  | up
  | name (letters : String)
  deriving DecidableEq

/-- The parts between slashes, empty ones included. -/
def parts : List Char → List (List Char)
  | [] => [[]]
  | c :: cs =>
    if c = '/' then [] :: parts cs
    else
      match parts cs with
      | part :: rest => (c :: part) :: rest
      | [] => [[c]]

/-- The step that a part means; an empty part means none. -/
def Step.ofPart : List Char → Option Step
  | [] => none
  | ['.'] => some .here
  | ['.', '.'] => some .up
  | letters => some (.name (String.ofList letters))

/-- The steps along a path. -/
def steps (path : String) : List Step := (parts path.toList).filterMap Step.ofPart

/-- The steps to a file; a slash at the end of the path asks for a directory there. -/
def fileSteps (path : String) : List Step :=
  if endsInSlash path then steps path ++ [.here] else steps path

/-- The steps that lead from one directory to another. -/
def moves (path : String) : List Step := (steps path).filter (· ≠ .here)

end ClassMill.CommandLine.Path
