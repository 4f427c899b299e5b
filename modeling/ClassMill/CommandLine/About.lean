import ClassMill.CommandLine.Arguments

/-!
# Texts about the program

A command line may ask for the version of the program or for a description of its options. The
description lists the options in order, each with its letter, its long name, the name of its
value, its purpose and its default.
-/

namespace ClassMill.CommandLine

/-- The name of the program. -/
def programName : String := "sample-gen-generate"

/-- The version of the program. -/
def programVersion : String := "0.2.0"

namespace Key

/-- The name of the value of an option. -/
def valueName (key : Key) : String :=
  String.ofList (key.long.toList.map Complexity.normalChar)

/-- The purpose of an option. -/
def purpose : Key → String
  | .path => "Output root directory."
  | .classes => "Number of classes to generate."
  | .complexity => "Complexity preset: SIMPLE, COMPLEX or GORDIAN_KNOT."
  | .package => "Package name [default: the complexity preset]."
  | .dialect => "Output dialect: core or extended."
  | .policy =>
    "Generation policy [default: default]. " ++
      "Use \"--policy help\" for a list of available policies."
  | .policyFile => "Load the generation policy from a RON file."
  | .seed => "Optional seed."
  | .maxVariance => "Variance ceiling in percent."
  | .statistics => "Also write batch statistics."
  | .dryRun => "Print classes to stdout instead of writing files."
  | .help => "Print help information"
  | .version => "Print version information"

/-- The value of an option that is not given, where it is always the same. -/
def default? : Key → Option String
  | .classes => some (toString Arguments.defaultClasses.toInt)
  | .complexity => some Complexity.simple.name
  | .dialect => some Dialect.standard.name
  | .maxVariance => some (toString Variance.defaultCeiling.toNat)
  | _ => none

/-- How an option is given. -/
def synopsis (key : Key) : String :=
  let front := match key.letter? with
    | some letter => "-" ++ String.singleton letter ++ ", --"
    | none => "    --"
  front ++ key.long ++ if key.isFlag then "" else " <" ++ key.valueName ++ ">"

/-- The description of an option. -/
def description (key : Key) : String :=
  let note := match key.default? with
    | some text => " [default: " ++ text ++ "]"
    | none => ""
  "    " ++ key.synopsis ++ "\n            " ++ key.purpose ++ note ++ "\n"

end Key

/-- The wording of a text about the program. -/
def Topic.text : Topic → String
  | .version => programName ++ " " ++ programVersion ++ "\n"
  | .help =>
    programName ++ " " ++ programVersion ++ "\n" ++
      "Generates batches of random Gosu class sources.\n\n" ++
      "USAGE:\n    " ++ programName ++ " [OPTIONS] --path <PATH>\n\n" ++
      "OPTIONS:\n" ++ "\n".intercalate (Key.all.map Key.description)

/-- The text that a reply prints: the one that was asked for. What is wrong with a command line is
reported apart, as failures are. -/
def Reply.printed : Reply → String
  | .about topic => topic.text
  | .usage _ => ""

end ClassMill.CommandLine
