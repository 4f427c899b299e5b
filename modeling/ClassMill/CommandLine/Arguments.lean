import ClassMill.Decimal.Reader
import ClassMill.Dialect.Basic
import ClassMill.Complexity
import ClassMill.Variance

/-!
# Command-line arguments

Arguments are split into settings first: an option with its value, attached or in the next
argument, or a bare flag. The settings are then read as values of their types. No option may
be repeated, and nothing may stand on the line that belongs to no option. A flag that asks for a
text about the program ends the splitting where it stands, whatever the values of the options
before it are and whatever follows.
-/

namespace ClassMill.CommandLine

/-- A text about the program that a command line may ask for. -/
inductive Topic
  | help
  | version
  deriving DecidableEq

/-- The options. -/
inductive Key
  | path
  | classes
  | complexity
  | package
  | dialect
  | policy
  | policyFile
  | seed
  | maxVariance
  | statistics
  | dryRun
  | help
  | version
  deriving DecidableEq

namespace Key

/-- The options in order. -/
def all : List Key := [.path, .classes, .complexity, .package, .dialect, .policy, .policyFile,
  .seed, .maxVariance, .statistics, .dryRun, .help, .version]

/-- The long name of an option. -/
def long : Key → String
  | .path => "path"
  | .classes => "classes"
  | .complexity => "complexity"
  | .package => "package"
  | .dialect => "dialect"
  | .policy => "policy"
  | .policyFile => "policy-file"
  | .seed => "seed"
  | .maxVariance => "max-variance"
  | .statistics => "statistics"
  | .dryRun => "dry-run"
  | .help => "help"
  | .version => "version"

/-- The letter of an option, if it has one. -/
def letter? : Key → Option Char
  | .path => some 'p'
  | .classes => some 'c'
  | .complexity => some 'x'
  | .seed => some 's'
  | .help => some 'h'
  | .version => some 'V'
  | _ => none

/-- The text about the program that an option asks for. -/
def topic? : Key → Option Topic
  | .help => some .help
  | .version => some .version
  | _ => none

/-- Whether an option is a bare flag. -/
def isFlag : Key → Bool
  | .statistics | .dryRun | .help | .version => true
  | _ => false

/-- Whether the next argument is the value even where it looks like an option. -/
def admitsDash : Key → Bool
  | .classes => true
  | _ => false

end Key

/-- Why arguments are not understood. -/
inductive UsageError
  | unexpected (argument : String)
  | missingValue (key : Key)
  | unwantedValue (key : Key)
  | repeated (key : Key)
  | invalidValue (key : Key) (text : String)
  | missing (key : Key)
  deriving DecidableEq

/-- The wording of a usage error. -/
def UsageError.message : UsageError → String
  | .unexpected argument => "unexpected argument " ++ argument
  | .missingValue key => "option --" ++ key.long ++ " needs a value"
  | .unwantedValue key => "option --" ++ key.long ++ " takes no value"
  | .repeated key => "option --" ++ key.long ++ " is given more than once"
  | .invalidValue key text => "invalid value " ++ text ++ " for option --" ++ key.long
  | .missing key => "option --" ++ key.long ++ " is required"

/-- The reply to a command line that starts no run: the text that it asks for, or what is wrong
with it. -/
inductive Reply
  | about (topic : Topic)
  | usage (reason : UsageError)
  deriving DecidableEq

/-- An option with its value. A flag has no value, and neither has an option that is left without
the one that it needs. -/
structure Setting where
  key : Key
  value : Option String
  deriving DecidableEq

/-- The form of one argument. -/
inductive Shape
  /-- The mark after which no option follows. -/
  | divider
  /-- A long name, perhaps with a value after an equals sign. -/
  | long (name : String) (attached : Option String)
  /-- A letter, perhaps with a value right after it. -/
  | short (letter : Char) (attached : Option String)
  | plain
  deriving DecidableEq

namespace Shape

/-- A long name up to the first equals sign, and the value after the sign. -/
def longOf (text : List Char) : Shape :=
  let name := String.ofList (text.takeWhile (· ≠ '='))
  match text.dropWhile (· ≠ '=') with
  | _ :: value => .long name (some (String.ofList value))
  | [] => .long name none

/-- The value that follows a letter; an equals sign in front of it is dropped. -/
def afterLetter : List Char → Option String
  | [] => none
  | '=' :: value => some (String.ofList value)
  | value => some (String.ofList value)

/-- The form of an argument. A lone dash is plain. -/
def ofText (text : String) : Shape :=
  match text.toList with
  | ['-', '-'] => .divider
  | '-' :: '-' :: rest => longOf rest
  | '-' :: letter :: rest => .short letter (afterLetter rest)
  | _ => .plain

/-- The option that an argument names, with the attached value. What follows the letter of a flag
is no value but more letters; they are not read, since every flag with a letter ends the
splitting. -/
def option? : Shape → Option (Key × Option String)
  | .long name attached => (Key.all.find? fun key => key.long = name).map (·, attached)
  | .short letter attached =>
    (Key.all.find? fun key => key.letter? = some letter).map fun key =>
      (key, if key.isFlag then none else attached)
  | _ => none

end Shape

/-- What an argument brings: a complete setting, an option whose value is still to come, or the
mark after which nothing may stand. -/
inductive Item
  | setting (s : Setting)
  | pending (key : Key)
  | divider
  deriving DecidableEq

namespace Item

/-- An option and the value attached to it, if they go together and no text about the program is
asked for. -/
def ofOption (key : Key) (attached : Option String) : Except Reply Item :=
  if key.isFlag then
    if attached.isSome then .error (.usage (.unwantedValue key))
    else
      match key.topic? with
      | some topic => .error (.about topic)
      | none => .ok (.setting ⟨key, none⟩)
  else
    match attached with
    | some value => .ok (.setting ⟨key, some value⟩)
    | none => .ok (.pending key)

/-- What an argument brings that is not the value of the option before it. -/
def ofArgument (argument : String) : Except Reply Item :=
  match Shape.ofText argument with
  | .divider => .ok .divider
  | shape =>
    match shape.option? with
    | none => .error (.usage (.unexpected argument))
    | some (key, attached) => ofOption key attached

end Item

/-- Whether an argument may be the value of the option before it. -/
def mayFollow (key : Key) (argument : String) : Bool :=
  key.admitsDash || Shape.ofText argument = .plain

/-- The setting of an option that waits for its value and does not get it. -/
def unfilled (pending : Option Key) : List Setting := pending.toList.map (⟨·, none⟩)

/-- Splits arguments into settings; `pending` is the option that waits for its value. -/
def settings (pending : Option Key) : List String → Except Reply (List Setting)
  | [] => .ok (unfilled pending)
  | argument :: rest =>
    match pending.filter fun key => mayFollow key argument with
    | some key => do return ⟨key, some argument⟩ :: (← settings none rest)
    | none => do
      match ← Item.ofArgument argument with
      | .setting s => return unfilled pending ++ s :: (← settings none rest)
      | .pending key => return unfilled pending ++ (← settings (some key) rest)
      | .divider =>
        match rest with
        | [] => return unfilled pending
        | extra :: _ => throw (.usage (.unexpected extra))

/-- The first option that needs a value and has none. -/
def unfilled? (list : List Setting) : Option Key :=
  (list.find? fun s => !s.key.isFlag && s.value.isNone).map Setting.key

/-- The first option that occurs a second time. -/
def repeated? : List Setting → Option Key
  | [] => none
  | s :: rest => if rest.any fun t => t.key = s.key then some s.key else repeated? rest

/-- What is wrong with settings before their values are looked at. -/
def misuse? (list : List Setting) : Option UsageError :=
  ((unfilled? list).map .missingValue).or ((repeated? list).map .repeated)

/-- The value of an option. -/
def value? (list : List Setting) (key : Key) : Option String :=
  (list.find? fun s => s.key = key).bind Setting.value

/-- What the command line asks for. -/
structure Arguments where
  /-- The directory below which files are written. -/
  path : String
  /-- The number of classes, which need not be sensible yet. -/
  classes : Int64
  complexity : Complexity
  /-- The package, the name of the tier where it is not given. -/
  package : Option String
  dialect : Dialect
  policy : Option String
  policyFile : Option String
  /-- The seed, a random one where it is not given. -/
  seed : Option UInt64
  maxVariance : UInt32
  /-- Whether batch statistics are wanted. -/
  statistics : Bool
  /-- Whether classes are printed rather than written to files. -/
  dryRun : Bool
  deriving DecidableEq

namespace Arguments

/-- A natural number up to a limit, perhaps with a plus sign. -/
def readUpTo (limit : Nat) (text : String) : Option Nat :=
  let digits := match text.toList with
    | '+' :: digits => digits
    | digits => digits
  (Decimal.readNat digits).filter (· ≤ limit)

/-- A 64-bit integer with an optional sign. -/
def readInt64 (text : String) : Option Int64 :=
  ((Decimal.readInt text.toList).filter fun n =>
    Int64.minValue.toInt ≤ n && n ≤ Int64.maxValue.toInt).map Int64.ofInt

/-- The value of an option as a value of its type. -/
def typed {α : Type} (read : String → Option α) (list : List Setting) (key : Key) :
    Except UsageError (Option α) :=
  match value? list key with
  | none => .ok none
  | some text =>
    match read text with
    | some a => .ok (some a)
    | none => .error (.invalidValue key text)

/-- The number of classes where none is given. -/
def defaultClasses : Int64 := 50

/-- Reads settings as arguments. -/
def ofSettings (list : List Setting) : Except UsageError Arguments := do
  if let some reason := misuse? list then throw reason
  let some path := value? list .path | throw (.missing .path)
  let classes ← typed readInt64 list .classes
  let complexity ← typed (fun text => (Complexity.parse text).toOption) list .complexity
  let dialect ← typed (fun text => (Dialect.parse text).toOption) list .dialect
  let seed ← typed (readUpTo (UInt64.size - 1)) list .seed
  let maxVariance ← typed (readUpTo (UInt32.size - 1)) list .maxVariance
  return {
    path
    classes := classes.getD defaultClasses
    complexity := complexity.getD .simple
    package := value? list .package
    dialect := dialect.getD .standard
    policy := value? list .policy
    policyFile := value? list .policyFile
    seed := seed.map UInt64.ofNat
    maxVariance := (maxVariance.map UInt32.ofNat).getD Variance.defaultCeiling
    statistics := list.any fun s => s.key = .statistics
    dryRun := list.any fun s => s.key = .dryRun }

/-- Reads a command line. -/
def parse (arguments : List String) : Except Reply Arguments := do
  (ofSettings (← settings none arguments)).mapError .usage

end Arguments

end ClassMill.CommandLine
