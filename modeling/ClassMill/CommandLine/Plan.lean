import ClassMill.CommandLine.Arguments
import ClassMill.CommandLine.Path
import ClassMill.Generation.Batch
import ClassMill.Policy.Named
import ClassMill.Ron.Types

/-!
# Plans

A plan says what a command line does to the outside: texts to print, directories to make and
files to write, in order, and how the run ends if all of that succeeds. Whatever can be refused
is checked before the first of these actions. A generation that halts leaves the actions for
the classes before it in the plan. Plans are lazy: a class is generated when the actions before
it have succeeded, so a run that fails early does no work for the classes after.
-/

namespace ClassMill.CommandLine

open ClassMill.Random

/-- Why a run ends without its result. -/
inductive Failure
  | refused (reason : Refusal)
  | conflictingPolicies
  | unreadable (path : String)
  | notCreated (path : String)
  | notWritten (path : String)
  deriving DecidableEq

/-- The wording of a failure. -/
def Failure.message : Failure → String
  | .refused reason => reason.message
  | .conflictingPolicies => "--policy and --policy-file are mutually exclusive"
  | .unreadable path => "unable to read " ++ path
  | .notCreated path => "unable to create " ++ path
  | .notWritten path => "unable to write " ++ path

/-- Something done to the outside. -/
inductive Action
  | print (text : String)
  /-- Makes a directory and those above it. -/
  | makeDirectories (path : String)
  /-- Writes a value in the object notation. -/
  | writeRecord (path text : String)
  /-- Writes the source of a class. -/
  | writeSource (path text : String)
  deriving DecidableEq

/-- How an action fails; printing does not. -/
def Action.failure? : Action → Option Failure
  | .print _ => none
  | .makeDirectories path => some (.notCreated path)
  | .writeRecord path _ => some (.notCreated path)
  | .writeSource path _ => some (.notWritten path)

/-- How a run ends. -/
inductive Ending
  | done
  | failed (reason : Failure)
  | halted (reason : Halt)
  deriving DecidableEq

/-- Actions in order, and the end of the run if all of them succeed. -/
inductive Plan
  | ended (ending : Ending)
  /-- An action, and what comes after it. -/
  | act (action : Action) (rest : Unit → Plan)

namespace Plan

/-- The actions of a plan. -/
def actions : Plan → List Action
  | .ended _ => []
  | .act a rest => a :: (rest ()).actions

/-- The end of a plan. -/
def ending : Plan → Ending
  | .ended e => e
  | .act _ rest => (rest ()).ending

/-- The plan that takes given actions and ends. -/
def ofActions (ending : Ending) : List Action → Plan
  | [] => .ended ending
  | a :: actions => .act a fun _ => ofActions ending actions

/-- Generates classes one by one, acts on each and adds it to the totals; acts on these last. -/
def ofClasses (g : ClassGenerator) (ctx : Context) (attempts : Nat)
    (onClass : GeneratedClass → Action) (onTotals : BatchStatistics → List Action) :
    (count : Nat) → BatchStatistics → Source → Plan
  | 0, totals, _ => ofActions .done (onTotals totals)
  | count + 1, totals, source =>
    match g.generate ctx attempts source with
    | .error halt => .ended (.halted halt)
    | .ok (output, source) =>
      .act (onClass output.file) fun _ =>
        match totals.add output.statistics with
        | .error reason => .ended (.halted (.fault reason))
        | .ok totals => ofClasses g ctx attempts onClass onTotals count totals source

end Plan

namespace Arguments

/-- The policy that is asked for, by name or from a file. -/
def resolvePolicy (args : Arguments) (read : String → Option String) : Except Failure Policy :=
  match args.policyFile with
  | none => (Policy.resolve args.policy).mapError .refused
  | some path =>
    if args.policy.isSome then .error .conflictingPolicies
    else
      match read path with
      | none => .error (.unreadable path)
      | some text => (Policy.ofText text).mapError .refused

/-- The package of the classes. -/
def packageName (args : Arguments) : String := args.package.getD args.complexity.name

/-- The generator that is asked for. -/
def generator (args : Arguments) : ClassGenerator :=
  .ofPreset args.complexity.preset args.maxVariance args.packageName

/-- The context of a run under a policy; `entropy` is the seed where none is given. -/
def context (args : Arguments) (policy : Policy) (entropy : UInt64) : Context :=
  ⟨policy, args.dialect, args.seed.getD entropy⟩

/-- The directory of the package. -/
def packageDirectory (args : Arguments) : String := Path.join args.path args.packageName

/-- The file of the policy. -/
def policyPath (args : Arguments) : String := Path.join args.path "policy.ron"

/-- The file of the statistics. -/
def statisticsPath (args : Arguments) : String := Path.join args.path "statistics.ron"

/-- The file of a class. -/
def classPath (args : Arguments) (c : GeneratedClass) : String :=
  Path.join args.packageDirectory (c.fileName args.dialect.fileExtension)

/-- The plan for the classes of a run, and for the totals if these are wanted. -/
def batchPlan (args : Arguments) (attempts : Nat) (ctx : Context) (count : Nat)
    (onClass : GeneratedClass → Action) (onTotals : String → Action) : Plan :=
  .ofClasses args.generator ctx attempts onClass
    (fun totals => if args.statistics then [onTotals (Ron.write totals)] else [])
    count .zero (.ofSeed ctx.seed)

/-- Prints the classes and perhaps the statistics. -/
def printing (args : Arguments) (attempts : Nat) (ctx : Context) (count : Nat) : Plan :=
  args.batchPlan attempts ctx count (fun c => .print (c.source ++ "\n"))
    (fun text => .print (text ++ "\n"))

/-- Writes the policy, the classes and perhaps the statistics to files. -/
def writing (args : Arguments) (attempts : Nat) (ctx : Context) (count : Nat) : Plan :=
  .act (.makeDirectories args.packageDirectory) fun _ =>
    .act (.writeRecord args.policyPath (Ron.write ctx.policy)) fun _ =>
      args.batchPlan attempts ctx count (fun c => .writeSource (args.classPath c) c.source)
        (.writeRecord args.statisticsPath)

/-- The number of classes and the policy, or the first reason to refuse them. -/
def checked (args : Arguments) (read : String → Option String) :
    Except Failure (Nat × Policy) := do
  let count ← (classCount args.classes).mapError .refused
  return (count, ← args.resolvePolicy read)

/-- Whether the names of the policies are asked for. -/
def asksForPolicies (args : Arguments) : Bool := args.policy = some "help"

/-- The plan of a run. Files are read by `read`, and `entropy` is the seed where none is
given. -/
def plan (args : Arguments) (attempts : Nat) (entropy : UInt64)
    (read : String → Option String) : Plan :=
  if args.asksForPolicies then
    .ofActions .done (Policy.names.map fun name => .print (name ++ "\n"))
  else
    match args.checked read with
    | .error reason => .ended (.failed reason)
    | .ok (count, policy) =>
      let ctx := args.context policy entropy
      if args.dryRun then args.printing attempts ctx count else args.writing attempts ctx count

end Arguments

end ClassMill.CommandLine
