import TypedId.Json.Basic
import TypedId.Text.Identifier

/-!
# Descriptors of identifiers

A descriptor is all that is needed to generate an identifier type: its name and namespace, the kind of value it wraps
and whether it is public. The names that go into its source follow from these. It is stored and written as a record,
which keeps the full name beside the others; records are made of any strings, also of those with surrogates in them.
-/

set_option autoImplicit false

namespace TypedId

/-- The kinds of value that an identifier wraps. -/
inductive BackingKind where
  | guid
  | int
  | long
  | string
  deriving DecidableEq, Repr

namespace BackingKind

/-- The kind of an identifier for which no other is chosen. -/
def default : BackingKind := .guid

/-- The kinds in the order of their numbers. -/
def all : List BackingKind :=
  [.guid, .int, .long, .string]

/-- The number that the marker attribute carries for a kind. -/
def number : BackingKind → Nat
  | .guid => 0
  | .int => 1
  | .long => 2
  | .string => 3

/-- The name that the marker attribute has for a kind. -/
def markerName : BackingKind → String
  | .guid => "Guid"
  | .int => "Int"
  | .long => "Long"
  | .string => "String"

/-- The kind with a number. -/
def ofNumber? (number : Int) : Option BackingKind :=
  all.find? fun kind => (kind.number : Int) == number

/-- The kind with a marker name. -/
def ofMarkerName? (name : String) : Option BackingKind :=
  all.find? fun kind => kind.markerName == name

end BackingKind

/-- A name inside a namespace, both of any code points. -/
def Json.Text.qualify (space name : Json.Text) : Json.Text :=
  if space.points.isEmpty then name else .ofPoints (space.points ++ '.'.toNat :: name.points)

/-- What is stored of an identifier type: the strings that it was built from and the full name that they give. -/
structure DescriptorRecord where
  space : Json.Text
  name : Json.Text
  fullName : Json.Text
  backing : BackingKind
  isPublic : Bool
  deriving DecidableEq, Repr

/-- A record as a JSON object. -/
def DescriptorRecord.toJson (record : DescriptorRecord) : Json :=
  .ofEntries
    [("namespace", .string record.space), ("name", .string record.name),
     ("fully_qualified_name", .string record.fullName), ("backing_kind", .integer record.backing.number),
     ("is_public", .bool record.isPublic)]

/-- What is needed to generate an identifier type. -/
structure Descriptor where
  space : String
  name : String
  backing : BackingKind
  isPublic : Bool
  deriving DecidableEq, Repr

namespace Descriptor

/-- The name of the type with its namespace. -/
def fullName (id : Descriptor) : String :=
  Text.qualify id.space id.name

/-- The name of the converter between the identifier and JSON. -/
def jsonConverterName (id : Descriptor) : String :=
  id.name ++ "JsonConverter"

/-- The name of the converter between the identifier and other types. -/
def typeConverterName (id : Descriptor) : String :=
  id.name ++ "TypeConverter"

/-- The record of a descriptor. -/
def record (id : Descriptor) : DescriptorRecord :=
  ⟨.whole id.space, .whole id.name, .whole id.fullName, id.backing, id.isPublic⟩

/-- A descriptor as a JSON object. -/
def toJson (id : Descriptor) : Json :=
  id.record.toJson

end Descriptor

end TypedId
