import TypedId.Backing
import TypedId.Json.Shown
import TypedId.Log

/-!
# Descriptors from declarations and from JSON

A declaration yields a descriptor when it carries the marker attribute and is a plain struct. A JSON object yields
one when its name is an identifier and its namespace, if it has one, a dotted path.
-/

set_option autoImplicit false

namespace TypedId

open Text

/-- The names of the marker attribute. -/
def markerNames : List String :=
  ["StrongId", "StrongIdAttribute"]

/-- The name of the marker's argument for the backing kind. -/
def backingArgumentName : String := "backingType"

/-- Whether an attribute is the marker, in whatever namespace. -/
def AttributeUse.isMarker (attr : AttributeUse) : Bool :=
  markerNames.contains attr.simpleName

/-- The first marker of a declaration. -/
def TypeDeclaration.marker? (declaration : TypeDeclaration) : Option AttributeUse :=
  declaration.attributes.find? AttributeUse.isMarker

/-- Whether an argument may state the backing kind: it has no label, or the one for the backing kind. -/
def AttributeArgument.statesBacking (argument : AttributeArgument) : Bool :=
  match argument.name with
  | none => true
  | some name => name == backingArgumentName

/-- The kind that a marker chooses. -/
def AttributeUse.backingKind (marker : AttributeUse) : Except NumeralError BackingKind :=
  match marker.arguments.find? AttributeArgument.statesBacking with
  | some argument => argument.backingKind
  | none => .ok BackingKind.default

namespace TypeDeclaration

/-- Whether a declaration is to be expanded: it carries the marker and is a plain struct. -/
def isExpandable (declaration : TypeDeclaration) : Bool :=
  declaration.marker?.isSome && declaration.kind.isPlainStruct

/-- The descriptor that a declaration yields, if any. -/
def descriptor? (declaration : TypeDeclaration) : Except NumeralError (Option Descriptor) :=
  match declaration.marker? with
  | some marker =>
    if declaration.kind.isPlainStruct then
      marker.backingKind.map fun backing =>
        some ⟨declaration.space, declaration.name, backing, declaration.isPublic⟩
    else .ok none
  | none => .ok none

/-- What is logged about a declaration that carries the marker but cannot be expanded. -/
def skipRecords (declaration : TypeDeclaration) : List LogRecord :=
  if declaration.marker?.isSome && !declaration.kind.isPlainStruct then
    [.debug ("Skipping " ++ declaration.fullName ++ ": " ++ declaration.kind.label ++ " is not a plain struct")]
  else []

end TypeDeclaration

/-- The descriptors that declarations yield, in order. -/
def descriptorsOf (declarations : List TypeDeclaration) : Except NumeralError (List Descriptor) :=
  (declarations.mapM TypeDeclaration.descriptor?).map fun found => found.filterMap id

/-- Why a JSON value is no descriptor. -/
inductive DescriptorError where
  | notObject (value : Json)
  | invalidName (value : Json)
  | invalidSpace (value : Json)
  | numeral (error : NumeralError)

/-- The wording of a descriptor error. -/
def DescriptorError.message : DescriptorError → String
  | .notObject value => "Expected a descriptor object, got " ++ value.shown
  | .invalidName value => value.shown ++ " is not a valid identifier"
  | .invalidSpace value => value.shown ++ " is not a valid namespace"
  | .numeral error => error.message

/-- The text that a value names a type by, if it is an identifier. -/
def Json.identifier? : Json → Option String
  | .string (.whole text) => if isIdentifier text then some text else none
  | _ => none

/-- The text that a value names a namespace by, if it is empty or a dotted path. -/
def Json.dottedPath? : Json → Option String
  | .string (.whole text) => if isDottedPath text then some text else none
  | _ => none

/-- The namespace among entries; one that counts as false stands for the global namespace. -/
def spaceEntry (entries : List (Json.Text × Json)) : Json :=
  match Json.lookup? entries "namespace" with
  | some value => if value.isTruthy then value else .ofString ""
  | none => .ofString ""

/-- The descriptor that the entries of an object give. -/
def descriptorOfEntries (entries : List (Json.Text × Json)) : Except DescriptorError Descriptor :=
  let name := (Json.lookup? entries "name").getD .null
  match name.identifier? with
  | none => .error (.invalidName name)
  | some text =>
    match (spaceEntry entries).dottedPath? with
    | none => .error (.invalidSpace (spaceEntry entries))
    | some space =>
      match BackingKind.ofValue ((Json.lookup? entries "backing_kind").getD .null) with
      | .error error => .error (.numeral error)
      | .ok backing =>
        let isPublic := ((Json.lookup? entries "is_public").map Json.isTruthy).getD true
        .ok ⟨space, text, backing, isPublic⟩

/-- The descriptor that a JSON value gives. -/
def Descriptor.ofJson : Json → Except DescriptorError Descriptor
  | .object entries => descriptorOfEntries entries
  | value => .error (.notObject value)

/-- The record of the descriptor that a JSON value gives. -/
def DescriptorRecord.ofJson (value : Json) : Except DescriptorError DescriptorRecord :=
  (Descriptor.ofJson value).map Descriptor.record

end TypedId
