import TypedId.CommandLine.Usage
import TypedId.Text.Similar

/-!
# Options among arguments

Arguments are read from left to right. One that begins with two dashes is a long option, with its value behind an
equals sign or in the next argument; one that begins with a single dash is a row of short options, of which the first
that takes a value takes the rest of the argument or the next one. Two dashes alone end the options.
-/

set_option autoImplicit false

namespace TypedId.CommandLine

/-- The options found among arguments, in order, and the arguments that are none. -/
structure Given where
  options : List (Key × Option String)
  rest : List String

/-- Nothing found yet. -/
def Given.empty : Given :=
  ⟨[], []⟩

/-- An option that still needs its value, with the name it was given by. -/
structure Pending where
  key : Key
  name : String

/-- What one argument gives: options, and an option whose value is the next argument. -/
structure ArgumentEffect where
  options : List (Key × Option String)
  pending : Option Pending

/-- The short options of a row, of which `letters` are left. -/
def readLetters (specs : List OptionSpec) : List Char → Except UsageFault ArgumentEffect
  | [] => .ok ⟨[], none⟩
  | letter :: rest =>
    let name := String.ofList ['-', letter]
    match specs.find? fun spec => spec.short == some letter with
    | none => .error (.noSuchOption name [])
    | some spec =>
      if spec.takesValue then
        if rest.isEmpty then .ok ⟨[], some ⟨spec.key, name⟩⟩
        else .ok ⟨[(spec.key, some (String.ofList rest))], none⟩
      else (readLetters specs rest).map fun more => ⟨(spec.key, none) :: more.options, more.pending⟩

/-- The long option with a name, and the value behind its equals sign. -/
def readLong (specs : List OptionSpec) (name : String) (value : Option String) :
    Except UsageFault ArgumentEffect :=
  match specs.find? fun spec => spec.long == name with
  | none => .error (.noSuchOption name (Text.closeWords name (specs.map OptionSpec.long)))
  | some spec =>
    if spec.takesValue then
      match value with
      | some text => .ok ⟨[(spec.key, some text)], none⟩
      | none => .ok ⟨[], some ⟨spec.key, name⟩⟩
    else if value.isSome then .error (.takesNoValue name)
    else .ok ⟨[(spec.key, none)], none⟩

/-- The options that an argument with a dash at its front gives. -/
def readOption (specs : List OptionSpec) (argument : List Char) : Except UsageFault ArgumentEffect :=
  match argument with
  | '-' :: '-' :: _ =>
    let name := argument.takeWhile (· != '=')
    let value := argument.drop name.length
    readLong specs (String.ofList name) (if value.isEmpty then none else some (String.ofList (value.drop 1)))
  | _ => readLetters specs (argument.drop 1)

/-- Whether an argument is an option. -/
def isOption : List Char → Bool
  | '-' :: _ :: _ => true
  | _ => false

/-- Reads arguments behind those read, the last of which may be an option that needs its value. In front of a command
the first argument that is no option ends the options (`mixed` is false); behind one options may follow. -/
def readArguments (specs : List OptionSpec) (mixed : Bool) (given : Given) (pending : Option Pending) :
    List String → Except UsageFault Given
  | [] =>
    match pending with
    | some option => .error (.needsArgument option.name)
    | none => .ok given
  | argument :: rest =>
    match pending with
    | some option =>
      readArguments specs mixed ⟨given.options ++ [(option.key, some argument)], given.rest⟩ none rest
    | none =>
      if argument = "--" then .ok ⟨given.options, given.rest ++ rest⟩
      else if isOption argument.toList then
        (readOption specs argument.toList).bind fun effect =>
          readArguments specs mixed ⟨given.options ++ effect.options, given.rest⟩ effect.pending rest
      else if mixed then readArguments specs mixed ⟨given.options, given.rest ++ [argument]⟩ none rest
      else .ok ⟨given.options, given.rest ++ argument :: rest⟩

end TypedId.CommandLine
