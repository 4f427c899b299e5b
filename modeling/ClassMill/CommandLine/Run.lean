import ClassMill.CommandLine.About
import ClassMill.CommandLine.Disk
import ClassMill.CommandLine.Plan

/-!
# Runs on a disk

A run reads a command line, plans it on the disk as it is and performs the plan. The first
action that fails ends the run; what was done before it stays. A command line that asks for a text
about the program, or that is not understood, gets its reply and nothing else happens.
-/

namespace ClassMill.CommandLine

/-- A disk and the text printed so far. -/
structure Scene where
  disk : Disk
  printed : String

/-- Performs an action; tells whether it succeeded. -/
def Action.perform (s : Scene) : Action → Scene × Bool
  | .print text => ({ s with printed := s.printed ++ text }, true)
  | .makeDirectories path =>
    let made := s.disk.makeDirectories path
    ({ s with disk := made.1 }, made.2)
  | .writeRecord path text | .writeSource path text =>
    match s.disk.write? path text with
    | some disk => ({ s with disk }, true)
    | none => (s, false)

/-- How a failing action ends a run. -/
def Action.failureEnding (a : Action) : Ending :=
  match a.failure? with
  | some reason => .failed reason
  | none => .done

/-- Performs the actions of a plan up to the first that fails. -/
def Plan.perform (s : Scene) : Plan → Scene × Ending
  | .ended e => (s, e)
  | .act a rest =>
    match a.perform s with
    | (s, true) => (rest ()).perform s
    | (s, false) => (s, a.failureEnding)

/-- How a command line ends: it gets a reply, or its run ends. -/
inductive Verdict
  | replied (reply : Reply)
  | ended (ending : Ending)
  deriving DecidableEq

/-- The status reported to the outside. -/
def Verdict.status : Verdict → UInt32
  | .replied (.about _) => 0
  | .replied (.usage _) => 2
  | .ended .done => 0
  | .ended (.failed _) => 1
  | .ended (.halted _) => 101

/-- Runs a command line on a disk. -/
def run (attempts : Nat) (entropy : UInt64) (arguments : List String) (disk : Disk) :
    Scene × Verdict :=
  match Arguments.parse arguments with
  | .error reply => (⟨disk, reply.printed⟩, .replied reply)
  | .ok args =>
    let (scene, ending) := (args.plan attempts entropy disk.read?).perform ⟨disk, ""⟩
    (scene, .ended ending)

end ClassMill.CommandLine
