import TypedId.Json.Basic
import TypedId.Text.Identifier

/-!
# Type declarations

What a declaration file says about its types: for each its name, namespace, kind, modifiers and attributes. The value
of an attribute argument is an integer, the dotted name of a member or the text of a string; declarations that come
from elsewhere may carry any value.
-/

set_option autoImplicit false

namespace TypedId

/-- The kinds of type. -/
inductive TypeKind where
  | structType
  | recordStruct
  | classType
  | recordClass
  | interfaceType
  deriving DecidableEq, Repr

/-- How a kind of type is named. -/
def TypeKind.label : TypeKind → String
  | .structType => "struct"
  | .recordStruct => "record struct"
  | .classType => "class"
  | .recordClass => "record class"
  | .interfaceType => "interface"

/-- The kinds of type. -/
def TypeKind.all : List TypeKind :=
  [.structType, .recordStruct, .classType, .recordClass, .interfaceType]

/-- The kind with a name. -/
def TypeKind.ofLabel? (label : String) : Option TypeKind :=
  TypeKind.all.find? fun kind => kind.label == label

/-- Whether a partial struct can complete a declaration of this kind. -/
def TypeKind.isPlainStruct (kind : TypeKind) : Bool :=
  kind == .structType

/-- The kinds of attribute argument. -/
inductive ArgumentKind where
  | integer
  | member
  | string
  deriving DecidableEq, Repr

/-- How a kind of argument is named. -/
def ArgumentKind.label : ArgumentKind → String
  | .integer => "integer"
  | .member => "member"
  | .string => "string"

/-- The kind of argument with a name. -/
def ArgumentKind.ofLabel? (label : String) : Option ArgumentKind :=
  [ArgumentKind.integer, .member, .string].find? fun kind => kind.label == label

/-- An argument of an attribute. -/
structure AttributeArgument where
  name : Option String
  kind : ArgumentKind
  value : Json

/-- An attribute of a declaration. -/
structure AttributeUse where
  name : String
  arguments : List AttributeArgument

/-- The name of an attribute without its namespace. -/
def AttributeUse.simpleName (attr : AttributeUse) : String :=
  Text.lastSegment attr.name

/-- A type declaration. -/
structure TypeDeclaration where
  name : String
  space : String
  kind : TypeKind
  modifiers : List String
  attributes : List AttributeUse

namespace TypeDeclaration

/-- The name of a type with its namespace. -/
def fullName (declaration : TypeDeclaration) : String :=
  Text.qualify declaration.space declaration.name

/-- Whether a type is public. -/
def isPublic (declaration : TypeDeclaration) : Bool :=
  declaration.modifiers.contains "public"

/-- Whether other parts may complete a type. -/
def isPartial (declaration : TypeDeclaration) : Bool :=
  declaration.modifiers.contains "partial"

end TypeDeclaration

/-- The first item that occurs earlier in a list, given the items before the list. -/
def firstRepeated? (seen : List String) : List String → Option String
  | [] => none
  | item :: rest => if seen.contains item then some item else firstRepeated? (item :: seen) rest

/-- The first full name that repeats that of an earlier declaration. -/
def repeatedName? (names : List (String × String)) : Option String :=
  firstRepeated? [] (names.map fun (space, name) => Text.qualify space name)

end TypedId
