import TypedId.Extraction
import TypedId.Files.Path
import TypedId.Json.Reader
import TypedId.Scan.Declarations
import TypedId.Text.LineEnds
import TypedId.Text.Utf8

/-!
# Loading input files

An input file is a JSON list of descriptors or a declaration file; its name tells which. Loading stops at the first
bad file. A declaration file that is not UTF-8 is not reported like other bad files but ends the program.
-/

set_option autoImplicit false

namespace TypedId.CommandLine

open Text

/-- Why loading stops. -/
inductive LoadStop where
  /-- A bad file, with what is wrong with it. -/
  | bad (file message : String)
  | undecodable (error : Utf8.DecodeError)
  /-- A selector that comes from a declaration is no number. -/
  | numeral (error : NumeralError)

/-- What loading logs and yields. -/
structure Loaded (α : Type) where
  records : List LogRecord
  result : Except LoadStop α

/-- Goes on with what was loaded, unless loading stopped. -/
def Loaded.andThen {α β : Type} (loaded : Loaded α) (next : α → Loaded β) : Loaded β :=
  match loaded.result with
  | .error stop => ⟨loaded.records, .error stop⟩
  | .ok value => let more := next value; ⟨loaded.records ++ more.records, more.result⟩

/-- The text of a file, its line ends unified. -/
def fileText (bytes : List Nat) : Except Utf8.DecodeError (List Char) :=
  (Utf8.decode bytes).map unifyLineEnds

/-- The JSON values that a file lists: the items of an array, or a single object. -/
def listedValues : Json → Option (List Json)
  | .array items => some items
  | .object entries => some [.object entries]
  | _ => none

/-- The descriptors that a JSON text lists, or what is wrong with it. -/
def descriptorsFromText (text : List Char) : Except String (List Descriptor) :=
  match Json.read text with
  | .error error => .error error.message
  | .ok value =>
    match listedValues value with
    | none => .error "expected a descriptor object or a list of them"
    | some items => (items.mapM Descriptor.ofJson).mapError DescriptorError.message

/-- Loads a JSON file. -/
def loadJson (file : String) (bytes : List Nat) : Loaded (List Descriptor) :=
  match fileText bytes with
  | .error error => ⟨[], .error (.bad file error.message)⟩
  | .ok text => ⟨[], (descriptorsFromText text).mapError (.bad file)⟩

/-- The warning about a declaration that cannot be completed by another part. -/
def partialWarnings (declaration : TypeDeclaration) : List LogRecord :=
  if declaration.isExpandable && !declaration.isPartial then
    [.warning (declaration.fullName ++ " is not declared partial; the generated part will not compile")]
  else []

/-- Extracts the descriptors of declarations. -/
def extractAll (declarations : List TypeDeclaration) : Loaded (List Descriptor) :=
  ⟨declarations.flatMap partialWarnings ++ declarations.flatMap TypeDeclaration.skipRecords,
    (descriptorsOf declarations).mapError .numeral⟩

/-- Scans the text of a declaration file. -/
def scanText (file : String) (text : List Char) : Loaded (List TypeDeclaration) :=
  match Scan.readDeclarations text with
  | .error error => ⟨[], .error (.bad file error.message)⟩
  | .ok declarations =>
    ⟨[.debug ("Parsed " ++ toString declarations.length ++ " type declaration(s)")],
      (Scan.distinct declarations).mapError fun error => .bad file error.message⟩

/-- Loads a declaration file. -/
def loadDeclarations (file : String) (bytes : List Nat) : Loaded (List Descriptor) :=
  match fileText bytes with
  | .error error => ⟨[], .error (.undecodable error)⟩
  | .ok text => (scanText file text).andThen extractAll

/-- Loads a file. -/
def loadFile (file : String) (bytes : List Nat) : Loaded (List Descriptor) :=
  (if Files.isJsonFile file then loadJson file bytes else loadDeclarations file bytes).andThen fun ids =>
    ⟨[.debug (file ++ ": " ++ toString ids.length ++ " strong id(s)")], .ok ids⟩

/-- Loads files one after the other. -/
def loadAll (contents : String → List Nat) : List String → Loaded (List Descriptor)
  | [] => ⟨[], .ok []⟩
  | file :: rest =>
    (loadFile file (contents file)).andThen fun ids =>
      (loadAll contents rest).andThen fun more => ⟨[], .ok (ids ++ more)⟩

end TypedId.CommandLine
