import TypedId.CommandLine.Option
import TypedId.Text.ControlSequence
import TypedId.Text.Quoted

/-!
# Help and usage errors

What the program says when it is asked for help or is called in a wrong way. Arguments that a report shows as they
are given cannot direct the terminal: reports hold no control sequences.
-/

set_option autoImplicit false

namespace TypedId.CommandLine

/-- Lines of text, each with its line feed. -/
def textLines (lines : List String) : String :=
  String.join (lines.map (· ++ "\n"))

/-- The line that shows how the program or a command is called. -/
def usageLine : Option Command → String
  | none => "Usage: " ++ programName ++ " [OPTIONS] COMMAND [ARGS]..."
  | some command => "Usage: " ++ programName ++ " " ++ command.name ++ " [OPTIONS]"

/-- What is said about the program or a command below its usage. -/
def helpLines : Option Command → List String
  | none =>
    ["  Strongly-typed identifier code generator.",
     "",
     "Options:",
     "  -v, --verbose  Enable debug logging",
     "  --help         Show this message and exit.",
     "",
     "Commands:",
     "  attribute  Generate the [StrongId] marker attribute source.",
     "  gen        Generate a source file for every annotated declaration.",
     "  info       Display the strong ids found in declaration files.",
     "  render     Render a single strong id from command-line inputs."]
  | some .gen =>
    ["  Generate a source file for every annotated declaration.",
     "",
     "Options:",
     "  -l, --language TEXT  Target language (csharp, python)  [default: csharp]",
     "  -i, --input FILE     Declaration file, or JSON descriptor list (*.json).",
     "                       Repeatable.  [required]",
     "  -o, --output TEXT    Output directory",
     "  --help               Show this message and exit."]
  | some .render =>
    ["  Render a single strong id from command-line inputs.",
     "",
     "Options:",
     "  -n, --name TEXT                 Wrapper type name  [required]",
     "  -s, --namespace TEXT            Namespace (default: global)",
     "  -b, --backing [guid|int|long|string|0|1|2|3]",
     "                                  Backing type  [default: Guid]",
     "  --internal                      Generate internal visibility",
     "  -l, --language TEXT             Target language (csharp, python)  [default:",
     "                                  csharp]",
     "  -o, --output TEXT               Output file (default: stdout)",
     "  --help                          Show this message and exit."]
  | some .attributeSource =>
    ["  Generate the [StrongId] marker attribute source.",
     "",
     "Options:",
     "  -s, --namespace TEXT  Namespace of the attribute  [default: StrongIds]",
     "  -o, --output TEXT     Output file (default: stdout)",
     "  --help                Show this message and exit."]
  | some .info =>
    ["  Display the strong ids found in declaration files.",
     "",
     "Options:",
     "  -i, --input FILE  Declaration file, or JSON descriptor list (*.json).",
     "                    Repeatable.  [required]",
     "  --json            Output as JSON",
     "  --help            Show this message and exit."]

/-- The help text of the program or of a command. -/
def helpText (command : Option Command) : String :=
  textLines (usageLine command :: "" :: helpLines command)

/-- What is wrong with a call. -/
inductive UsageFault where
  | missingCommand
  | noSuchCommand (name : String) (close : List String)
  | noSuchOption (name : String) (close : List String)
  | needsArgument (name : String)
  | takesNoValue (name : String)
  | missingOption (spec : OptionSpec)
  | invalidValue (spec : OptionSpec) (reason : String)
  | extraArguments (arguments : List String)

/-- Names in quotes, separated by commas. -/
def quotedList (names : List String) : String :=
  ", ".intercalate (names.map Text.quote)

/-- The hint at names close to one that is unknown. -/
def closeHint : List String → String
  | [] => ""
  | [name] => " Did you mean " ++ Text.quote name ++ "?"
  | names => " (Did you mean one of: " ++ quotedList names ++ "?)"

/-- The wording of a usage fault. -/
def UsageFault.message : UsageFault → String
  | .missingCommand => "Missing command."
  | .noSuchCommand name close => "No such command " ++ Text.quote name ++ "." ++ closeHint close
  | .noSuchOption name close => "No such option " ++ Text.quote name ++ "." ++ closeHint close
  | .needsArgument name => "Option " ++ Text.quote name ++ " requires an argument."
  | .takesNoValue name => "Option " ++ Text.quote name ++ " does not take a value."
  | .missingOption spec => "Missing option " ++ spec.shown ++ "."
  | .invalidValue spec reason => "Invalid value for " ++ spec.shown ++ ": " ++ reason
  | .extraArguments arguments =>
    (if arguments.length = 1 then "Got unexpected extra argument (" else "Got unexpected extra arguments (")
      ++ " ".intercalate arguments ++ ")"

/-- Whether a fault is reported together with the usage. -/
def UsageFault.showsUsage : UsageFault → Bool
  | .needsArgument _ => false
  | .takesNoValue _ => false
  | _ => true

/-- The words that call the program or a command. -/
def callWords : Option Command → String
  | none => programName
  | some command => programName ++ " " ++ command.name

/-- The report of a usage fault in front of a command or of a command, without control sequences. -/
def UsageFault.report (fault : UsageFault) (command : Option Command) : String :=
  let usage :=
    if fault.showsUsage then
      textLines [usageLine command, "Try '" ++ callWords command ++ " --help' for help.", ""]
    else ""
  Text.withoutControls (usage ++ "Error: " ++ fault.message ++ "\n")

end TypedId.CommandLine
