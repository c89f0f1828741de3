import TypedId.Backing
import TypedId.CommandLine.Arguments
import TypedId.Emit.Language
import TypedId.Files.Store
import TypedId.Unicode.Alphanumeric
import TypedId.Unicode.CaseFold

/-!
# What a call asks for

A call is read in two stages: the options in front of the command, then those of the command. Values come from the
arguments, else from the environment, where an empty variable counts as absent, else they are the default. The
options given are checked first, in the order of the arguments, then the others; a call for help comes before all
checks.
-/

set_option autoImplicit false

namespace TypedId.CommandLine

open Text

/-- A valid call of a command. -/
inductive Request where
  | gen (language : String) (inputs : List String) (output : String)
  | render (id : Descriptor) (language : String) (output : Option String)
  | attributeSource (space : String) (output : Option String)
  | info (inputs : List String) (asJson : Bool)

/-- What a call comes to. -/
inductive Reply where
  | request (verbose : Bool) (request : Request)
  | help (command : Option Command)
  /-- The program was called without arguments. -/
  | noArguments
  | fault (fault : UsageFault) (command : Option Command)
  /-- An input path has a null character. -/
  | refusedPath

/-- What is known when options are checked: the options given, the environment and the files. -/
structure Setting where
  command : Option Command
  given : Given
  environment : String → Option String
  status : String → Files.Status

namespace Setting

/-- The value of the variable for an option, if it has one. -/
def fromEnvironment? (setting : Setting) (spec : OptionSpec) : Option String :=
  ((spec.environmentName? setting.command).bind setting.environment).filter fun value => !value.isEmpty

/-- The values that arguments give for a key. -/
def values (setting : Setting) (key : Key) : List String :=
  (setting.given.options.filter fun option => option.1 == key).filterMap Prod.snd

/-- The value of an option that counts once: the last one given. -/
def value? (setting : Setting) (spec : OptionSpec) : Option String :=
  match (setting.values spec.key).getLast? with
  | some value => some value
  | none => setting.fromEnvironment? spec

/-- The values of an option that may be repeated; a variable holds several with colons between them. -/
def allValues (setting : Setting) (spec : OptionSpec) : List String :=
  let given := setting.values spec.key
  if given.isEmpty then
    match setting.fromEnvironment? spec with
    | some value => (cutAt ':' value.toList).map String.ofList
    | none => []
  else given

/-- Whether a key was given by an argument. -/
def has (setting : Setting) (key : Key) : Bool :=
  setting.given.options.any fun option => option.1 == key

end Setting

/-- The words that set a flag. -/
def trueWords : List String :=
  ["1", "true", "t", "yes", "y", "on"]

/-- The words that leave a flag unset. -/
def falseWords : List String :=
  ["", "0", "false", "f", "no", "n", "off"]

/-- The flag that the text of a variable writes. -/
def readFlag? (text : String) : Option Bool :=
  let word := lower (strip text)
  if trueWords.contains word then some true else if falseWords.contains word then some false else none

/-- Whether a flag is set, or why its variable does not say. -/
def Setting.flag (setting : Setting) (spec : OptionSpec) : Except UsageFault Bool :=
  if setting.has spec.key then .ok true
  else
    match setting.fromEnvironment? spec with
    | none => .ok false
    | some text =>
      match readFlag? text with
      | some value => .ok value
      | none =>
        .error (.invalidValue spec (quote text ++ " is not a valid boolean. Recognized values: "
          ++ ", ".intercalate ((trueWords ++ falseWords).mergeSort fun a b => !(b < a))))

/-- The choices for a backing kind: the names, then the numbers. -/
def backingChoices : List (String × BackingKind) :=
  BackingKind.all.map (fun kind => (Unicode.foldCase kind.markerName, kind))
    ++ BackingKind.all.map fun kind => (toString kind.number, kind)

/-- The backing kind that a text chooses, whatever its case. -/
def backingChoice? (text : String) : Option BackingKind :=
  (backingChoices.find? fun choice => choice.1 == Unicode.foldCase text).map Prod.snd

/-- What a check finds wrong. -/
inductive Objection where
  | fault (fault : UsageFault)
  | refusedPath

/-- What is wrong with an input path. -/
def inputObjection? (setting : Setting) (spec : OptionSpec) (path : String) : Option Objection :=
  match setting.status path with
  | .file _ => none
  | .refused => some .refusedPath
  | .missing => some (.fault (.invalidValue spec ("File " ++ quote path ++ " does not exist.")))
  | .directory => some (.fault (.invalidValue spec ("File " ++ quote path ++ " is a directory.")))

/-- What is wrong with the value of an option. -/
def objection? (setting : Setting) (spec : OptionSpec) : Option Objection :=
  match spec.key with
  | .input =>
    let paths := setting.allValues spec
    if paths.isEmpty then some (.fault (.missingOption spec)) else paths.findSome? (inputObjection? setting spec)
  | .name =>
    match setting.value? spec with
    | none => some (.fault (.missingOption spec))
    | some name =>
      if isIdentifier name then none
      else some (.fault (.invalidValue spec (quote name ++ " is not a valid identifier")))
  | .space =>
    match setting.value? spec with
    | none => none
    | some space =>
      if isDottedPath space then none
      else some (.fault (.invalidValue spec (quote space ++ " is not a valid namespace")))
  | .backing =>
    match setting.value? spec with
    | none => none
    | some text =>
      if (backingChoice? text).isSome then none
      else
        some (.fault (.invalidValue spec
          (quote text ++ " is not one of " ++ quotedList (backingChoices.map Prod.fst) ++ ".")))
  | _ =>
    if spec.takesValue then none
    else
      match setting.flag spec with
      | .ok _ => none
      | .error fault => some (.fault fault)

/-- The options in the order in which they are checked: those given, as they were first given, then the others. -/
def checkOrder (setting : Setting) (specs : List OptionSpec) : List OptionSpec :=
  let given := setting.given.options.filterMap fun option => specs.find? fun spec => spec.key == option.1
  given ++ specs.filter fun spec => !setting.has spec.key

/-- Checks options: the call for help first, then the others. -/
def checkOptions (setting : Setting) (specs : List OptionSpec) : Except Reply Unit :=
  if setting.has .help then .error (.help setting.command)
  else
    match (checkOrder setting specs).findSome? (objection? setting) with
    | some (.fault fault) => .error (.fault fault setting.command)
    | some .refusedPath => .error .refusedPath
    | none => .ok ()

/-- Whether a flag is set once its option has been checked. -/
def Setting.isSet (setting : Setting) (spec : OptionSpec) : Bool :=
  (setting.flag spec).toOption.getD false

/-- The language that is generated unless another one is asked for. -/
def defaultLanguage : String :=
  Emit.Language.csharp.label

/-- The directory that files are generated in unless another one is asked for. -/
def defaultDirectory : String := "."

/-- The descriptor that checked options describe. -/
def descriptorOf (setting : Setting) : Descriptor where
  space := (setting.value? spaceOption).getD ""
  name := (setting.value? nameOption).getD ""
  backing := ((setting.value? backingOption).bind backingChoice?).getD BackingKind.default
  isPublic := !setting.isSet internalOption

/-- The request that checked options of a command make. -/
def requestOf (setting : Setting) (command : Command) : Request :=
  let language := (setting.value? languageOption).getD defaultLanguage
  match command with
  | .gen =>
    .gen language (setting.allValues inputOption) ((setting.value? outputDirectoryOption).getD defaultDirectory)
  | .render => .render (descriptorOf setting) language (setting.value? outputFileOption)
  | .attributeSource =>
    .attributeSource ((setting.value? spaceOption).getD Emit.Marker.defaultSpace) (setting.value? outputFileOption)
  | .info => .info (setting.allValues inputOption) (setting.isSet jsonOption)

/-- Reads the arguments of a command. -/
def readCommand (environment : String → Option String) (status : String → Files.Status)
    (command : Command) (arguments : List String) : Except Reply Request :=
  match readArguments command.options true .empty none arguments with
  | .error fault => .error (.fault fault (some command))
  | .ok given =>
    let setting : Setting := ⟨some command, given, environment, status⟩
    (checkOptions setting command.options).bind fun _ =>
      if given.rest.isEmpty then .ok (requestOf setting command)
      else .error (.fault (.extraArguments given.rest) (some command))

/-- Reads the options in front of a command; gives whether details are logged, and the arguments from the command
on. -/
def readGlobal (environment : String → Option String) (status : String → Files.Status) (arguments : List String) :
    Except Reply (Bool × List String) :=
  match readArguments globalOptions false .empty none arguments with
  | .error fault => .error (.fault fault none)
  | .ok given =>
    let setting : Setting := ⟨none, given, environment, status⟩
    (checkOptions setting globalOptions).map fun _ =>
      (setting.isSet verboseOption, given.rest)

/-- Whether a name begins like a word: a name that does not may have been meant as an option. -/
def beginsWord (name : String) : Bool :=
  name.toList.head?.all Unicode.alphanumeric.has

/-- What a call comes to when the command is unknown: if the name does not begin like a word, the options in front of
a command are read once more from the name on, and what is wrong with them is reported first. -/
def unknownCommand (environment : String → Option String) (status : String → Files.Status) (name : String)
    (arguments : List String) : Reply :=
  let unknown := .fault (.noSuchCommand name (closeWords name (Command.all.map Command.name))) none
  if beginsWord name then unknown
  else
    match readGlobal environment status (name :: arguments) with
    | .error reply => reply
    | .ok _ => unknown

/-- Reads a call. -/
def readCall (environment : String → Option String) (status : String → Files.Status) (arguments : List String) :
    Reply :=
  if arguments.isEmpty then .noArguments
  else
    match readGlobal environment status arguments with
    | .error reply => reply
    | .ok (_, []) => .fault .missingCommand none
    | .ok (verbose, name :: rest) =>
      match Command.ofName? name with
      | none => unknownCommand environment status name rest
      | some command =>
        match readCommand environment status command rest with
        | .error reply => reply
        | .ok request => .request verbose request

/-- The input files that a call names, whether they exist or not. -/
def inputPaths (environment : String → Option String) (arguments : List String) : List String :=
  match readArguments globalOptions false .empty none arguments with
  | .ok ⟨_, name :: rest⟩ =>
    match Command.ofName? name with
    | none => []
    | some command =>
      match readArguments command.options true .empty none rest with
      | .error _ => []
      | .ok given => (Setting.mk (some command) given environment fun _ => .missing).allValues inputOption
  | _ => []

end TypedId.CommandLine
