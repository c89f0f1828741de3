import TypedId.CommandLine.Loading
import TypedId.CommandLine.Request
import TypedId.CommandLine.Table
import TypedId.Emit.Language

/-!
# What a call does

A call is turned into a plan: steps that print, log, make directories and write files, and the way the program ends.
All checks come before the first step that changes a file, so that a call which is refused changes none.
-/

set_option autoImplicit false

namespace TypedId.CommandLine

/-- A step of a plan. -/
inductive Step where
  | print (text : String)
  | printError (text : String)
  | log (record : LogRecord)
  | makeDirectories (path : Files.Path)
  | write (path text : String)

/-- What ends a program before it comes to an exit status. -/
inductive Failure where
  | undecodable (error : Text.Utf8.DecodeError)
  | numeral (error : Text.NumeralError)
  | file (error : Files.FileError)

/-- The wording of a failure. -/
def Failure.message : Failure → String
  | .undecodable error => error.message
  | .numeral error => error.message
  | .file error => error.message

/-- How a program ends. -/
inductive Ending where
  | exit (status : Nat)
  | failure (failure : Failure)

/-- The steps of a call and how it ends. -/
structure Plan where
  steps : List Step
  ending : Ending

/-- Steps in front of a plan. -/
def Plan.after (steps : List Step) (plan : Plan) : Plan :=
  { plan with steps := steps ++ plan.steps }

/-- The plan that only prints. -/
def Plan.printing (text : String) (status : Nat) : Plan :=
  ⟨[.print text], .exit status⟩

/-- The records that are logged: details only when they are asked for. -/
def logSteps (verbose : Bool) (records : List LogRecord) : List Step :=
  (records.filter fun record => verbose || record.level == .warning).map .log

/-- Goes on in a language with a name, if there is one. -/
def withLanguage (name : String) (next : Emit.Language → Plan) : Plan :=
  match Emit.Language.ofLabel? name with
  | some language => next language
  | none => .printing ("Unknown language: " ++ name ++ "\n") 1

/-- Goes on with the descriptors of input files, if they can be loaded. -/
def withDescriptors (verbose : Bool) (contents : String → List Nat) (inputs : List String)
    (next : List Descriptor → Plan) : Plan :=
  let loaded := loadAll contents inputs
  let plan : Plan := match loaded.result with
    | .ok ids => next ids
    | .error (.bad file message) => .printing ("Error in " ++ file ++ ": " ++ message ++ "\n") 1
    | .error (.undecodable error) => ⟨[], .failure (.undecodable error)⟩
    | .error (.numeral error) => ⟨[], .failure (.numeral error)⟩
  plan.after (logSteps verbose loaded.records)

/-- The first descriptor whose output has the name of an earlier one, with that name. -/
def collision? (outputName : Descriptor → String) (seen : List String) :
    List Descriptor → Option (String × Descriptor)
  | [] => none
  | id :: rest =>
    if seen.contains (outputName id) then some (outputName id, id)
    else collision? outputName (outputName id :: seen) rest

/-- The steps that write the source of an identifier into a directory. -/
def writeSteps (verbose : Bool) (language : Emit.Language) (directory : Files.Path) (id : Descriptor) : List Step :=
  let path := (directory.child (language.outputName id)).text
  .write path (language.render id) :: logSteps verbose [.debug ("Wrote " ++ path)]

/-- The plan that writes the sources of identifiers into a directory. -/
def writeAll (verbose : Bool) (language : Emit.Language) (directory : Files.Path) (ids : List Descriptor) : Plan :=
  match collision? language.outputName [] ids with
  | some (name, id) => .printing ("Duplicate output " ++ name ++ " for " ++ id.fullName ++ "\n") 1
  | none =>
    ⟨.makeDirectories directory :: ids.flatMap (writeSteps verbose language directory)
      ++ [.print ("Generated " ++ toString ids.length ++ " file(s) in " ++ directory.text ++ "\n")], .exit 0⟩

/-- The plan that writes a text to a file, or prints it. -/
def deliver (output : Option String) (text : String) : Plan :=
  match output with
  | some path => ⟨[.write path text], .exit 0⟩
  | none => .printing text 0

/-- The plan of a request. -/
def requestPlan (verbose : Bool) (contents : String → List Nat) : Request → Plan
  | .gen language inputs output =>
    withLanguage language fun language =>
      withDescriptors verbose contents inputs (writeAll verbose language (.ofText output))
  | .render id language output => withLanguage language fun language => deliver output (language.render id)
  | .attributeSource space output => deliver output (Emit.Marker.render space)
  | .info inputs asJson =>
    withDescriptors verbose contents inputs fun ids =>
      .printing (if asJson then listText ids else tableText ids) 0

/-- The bytes of a file, none where there is no file. -/
def contentsOf (status : String → Files.Status) (path : String) : List Nat :=
  match status path with
  | .file bytes => bytes
  | _ => []

/-- The plan of a reply. -/
def replyPlan (status : String → Files.Status) : Reply → Plan
  | .request verbose request => requestPlan verbose (contentsOf status) request
  | .help command => .printing (helpText command) 0
  | .noArguments => ⟨[.printError (helpText none)], .exit 2⟩
  | .fault fault command => ⟨[.printError (fault.report command)], .exit 2⟩
  | .refusedPath => ⟨[], .failure (.file ⟨.nullCharacter, ""⟩)⟩

/-- The plan of a call. -/
def planCall (environment : String → Option String) (status : String → Files.Status) (arguments : List String) :
    Plan :=
  replyPlan status (readCall environment status arguments)

end TypedId.CommandLine
