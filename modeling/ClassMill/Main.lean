import ClassMill.CommandLine.Run

/-!
# The program

The outer layer reads the policy file, performs the plan of a command line on the real disk and
reports how it ended.
-/

namespace ClassMill

open CommandLine

/-- The number of times that a rejected draw is repeated before a run gives up. -/
def drawAttempts : Nat := 1 <<< 62

/-- A random seed. -/
def randomSeed : IO UInt64 := do
  let bytes ← IO.getRandomBytes 8
  return bytes.toList.foldl (fun n b => n <<< 8 ||| b.toUInt64) 0

/-- The text of a file, if it can be read. -/
def readFile? (path : String) : IO (Option String) := do
  try
    return some (← IO.FS.readFile path)
  catch _ => return none

/-- Performs an action on the real disk; tells whether it succeeded. -/
def performAction (a : Action) : IO Bool := do
  try
    match a with
    | .print text => IO.print text
    | .makeDirectories path => IO.FS.createDirAll path
    | .writeRecord path text | .writeSource path text => IO.FS.writeFile path text
    return true
  catch _ => return false

/-- Performs the actions of a plan up to the first that fails. -/
def performAll : Plan → IO Ending
  | .ended e => return e
  | .act a rest => do
    if ← performAction a then performAll (rest ()) else return a.failureEnding

/-- Writes what went wrong, if anything did. -/
def report : Verdict → IO Unit
  | .replied (.about _) => return
  | .replied (.usage reason) => IO.eprintln ("error: " ++ reason.message)
  | .ended .done => return
  | .ended (.failed reason) => IO.eprintln ("Error: " ++ reason.message)
  | .ended (.halted (.fault reason)) => IO.eprintln reason.message
  | .ended (.halted .outOfAttempts) => IO.eprintln "no acceptable draw"

/-- Runs a command line. -/
def runArguments (arguments : List String) : IO Verdict := do
  match Arguments.parse arguments with
  | .error reply =>
    IO.print reply.printed
    return .replied reply
  | .ok args =>
    let text ← match args.policyFile with
      | none => pure none
      | some path => readFile? path
    return .ended (← performAll (args.plan drawAttempts (← randomSeed) fun _ => text))

end ClassMill

/-- The program: generates batches of random classes. -/
def main (arguments : List String) : IO UInt32 := do
  let verdict ← ClassMill.runArguments arguments
  ClassMill.report verdict
  return verdict.status
