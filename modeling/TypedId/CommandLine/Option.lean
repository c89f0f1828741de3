import TypedId.Emit.Marker

/-!
# Commands and options

The program has four commands. Options are given by a long or a short name, with a value or as a flag, or, the call
for help apart, by a variable of the environment. Each command lists its options in the order in which those that are
not given are looked at.
-/

set_option autoImplicit false

namespace TypedId.CommandLine

/-- The name of the program. -/
def programName : String := "strongids"

/-- The commands. -/
inductive Command where
  | attributeSource
  | gen
  | info
  | render
  deriving DecidableEq, Repr

namespace Command

/-- The name of a command. -/
def name : Command → String
  | .attributeSource => "attribute"
  | .gen => "gen"
  | .info => "info"
  | .render => "render"

/-- The commands in the order of their names. -/
def all : List Command :=
  [.attributeSource, .gen, .info, .render]

/-- The command with a name. -/
def ofName? (text : String) : Option Command :=
  all.find? fun command => command.name == text

end Command

/-- What an option sets. -/
inductive Key where
  | verbose
  | language
  | input
  | output
  | name
  | space
  | backing
  | internal
  | json
  | help
  deriving DecidableEq, Repr

/-- An option: what it sets, its long name and, if it has one, its short name, whether it takes a value, and the end
of the name of its variable, if it may be given by one. -/
structure OptionSpec where
  key : Key
  long : String
  short : Option Char
  takesValue : Bool
  variableName : Option String

namespace OptionSpec

/-- The short name of an option with its dash. -/
def shortName? (spec : OptionSpec) : Option String :=
  spec.short.map fun letter => String.ofList ['-', letter]

/-- The names of an option as a message shows them. -/
def shown (spec : OptionSpec) : String :=
  match spec.shortName? with
  | some short => "'" ++ spec.long ++ "' / '" ++ short ++ "'"
  | none => "'" ++ spec.long ++ "'"

end OptionSpec

/-- The option that asks for help. It has no variable: only arguments ask for help. -/
def helpOption : OptionSpec :=
  ⟨.help, "--help", none, false, none⟩

/-- The option for the target language. -/
def languageOption : OptionSpec :=
  ⟨.language, "--language", some 'l', true, some "LANGUAGE"⟩

/-- The option for input files. -/
def inputOption : OptionSpec :=
  ⟨.input, "--input", some 'i', true, some "INPUT_FILES"⟩

/-- The option for a namespace. -/
def spaceOption : OptionSpec :=
  ⟨.space, "--namespace", some 's', true, some "NAMESPACE"⟩

/-- The option for an output file. -/
def outputFileOption : OptionSpec :=
  ⟨.output, "--output", some 'o', true, some "OUTPUT_FILE"⟩

/-- The option for an output directory. -/
def outputDirectoryOption : OptionSpec :=
  ⟨.output, "--output", some 'o', true, some "OUTPUT_DIR"⟩

/-- The option for the name of a type. -/
def nameOption : OptionSpec :=
  ⟨.name, "--name", some 'n', true, some "NAME"⟩

/-- The option for a backing kind. -/
def backingOption : OptionSpec :=
  ⟨.backing, "--backing", some 'b', true, some "BACKING"⟩

/-- The option that asks for a type that is not public. -/
def internalOption : OptionSpec :=
  ⟨.internal, "--internal", none, false, some "INTERNAL"⟩

/-- The option that asks for JSON. -/
def jsonOption : OptionSpec :=
  ⟨.json, "--json", none, false, some "OUTPUT_JSON"⟩

/-- The option that asks for details to be logged. -/
def verboseOption : OptionSpec :=
  ⟨.verbose, "--verbose", some 'v', false, some "VERBOSE"⟩

/-- The options in front of a command. -/
def globalOptions : List OptionSpec :=
  [verboseOption, helpOption]

/-- The options of a command. -/
def Command.options : Command → List OptionSpec
  | .attributeSource => [spaceOption, outputFileOption, helpOption]
  | .gen => [languageOption, inputOption, outputDirectoryOption, helpOption]
  | .info => [inputOption, jsonOption, helpOption]
  | .render =>
    [nameOption, spaceOption, backingOption, internalOption, languageOption, outputFileOption, helpOption]

/-- What all names of variables begin with. -/
def programVariableStart : String := "STRONGIDS_"

/-- The names of variables for the options in front of a command or of a command begin with this. -/
def variableStart : Option Command → String
  | none => programVariableStart
  | some command => programVariableStart ++ String.ofList (command.name.toList.map Char.toUpper) ++ "_"

/-- The name of the variable for an option, in front of a command or of a command, if it has one. -/
def OptionSpec.environmentName? (spec : OptionSpec) (command : Option Command) : Option String :=
  spec.variableName.map (variableStart command ++ ·)

end TypedId.CommandLine
