import TypedId.Declaration
import TypedId.Scan.Search
import TypedId.Text.Numeral

/-!
# The declarations of a file

`scan` reads a text as a declaration file and lists its type declarations in order, each with its whole namespace.
Three things can go wrong, and are looked for in this order: the text is no declaration file, an integer literal is
not converted, a full name is declared twice.
-/

set_option autoImplicit false

namespace TypedId.Scan

open Syntax Text

/-- Why a text yields no declarations. -/
inductive ScanError where
  | malformed (error : SyntaxError)
  | numeral (error : NumeralError)
  | repeated (fullName : String)

/-- The wording of a scan error. -/
def ScanError.message : ScanError → String
  | .malformed error => error.message
  | .numeral error => "Error trying to process rule \"integer_literal\":\n\n" ++ error.message
  | .repeated fullName => fullName ++ " is declared more than once"

/-- The integer that a literal writes: its type suffix and underscores count for nothing, and `0x` makes it
hexadecimal. -/
def literalValue (text : String) : Except NumeralError Int :=
  let bare := (text.toList.reverse.dropWhile Grammar.isIntegerSuffix).reverse.filter (· != '_')
  let (negative, digits) := match bare with
    | '-' :: rest => (true, rest)
    | _ => (false, bare)
  let value : Except NumeralError Int := match digits with
    | '0' :: 'x' :: rest => (readHex rest).map Int.ofNat
    | '0' :: 'X' :: rest => (readHex rest).map Int.ofNat
    | _ => readDecimal (String.ofList digits)
  value.map fun value => if negative then -value else value

/-- The text between the quotes of a string literal. -/
def unquoted (text : String) : String :=
  String.ofList (text.toList.drop 1).dropLast

/-- What an argument says: its casts make no difference. -/
def argumentOf (argument : Argument) : Except NumeralError AttributeArgument :=
  let name := argument.label.map Label.name
  match argument.operand with
  | .member path => .ok ⟨name, .member, .ofString path.text⟩
  | .integer text => (literalValue text).map fun value => ⟨name, .integer, .integer value⟩
  | .string text => .ok ⟨name, .string, .ofString (unquoted text)⟩

/-- What an attribute says. -/
def attributeOf (attr : Attribute) : Except NumeralError AttributeUse :=
  ((attr.arguments.getD []).mapM argumentOf).map fun arguments => ⟨attr.name.text, arguments⟩

/-- The kind that the words of a declaration state. -/
def kindOf : KindWords → TypeKind
  | .structType => .structType
  | .recordStruct => .recordStruct
  | .classType => .classType
  | .record => .recordClass
  | .recordClass => .recordClass
  | .interfaceType => .interfaceType

/-- What a declaration in a namespace says. -/
def declarationOf (space : String) (declaration : Declaration) : Except NumeralError TypeDeclaration :=
  (declaration.attributes.mapM attributeOf).map fun attributes =>
    ⟨declaration.name, space, kindOf declaration.kind, declaration.modifiers, attributes⟩

mutual

/-- The declarations of a member inside a namespace, each with its own namespace. -/
def flattenMember (space : String) : Member → List (String × Declaration)
  | .type declaration => [(space, declaration)]
  | .space name _ members _ => flattenMembers (qualify space name.text) members

/-- The declarations of members inside a namespace. -/
def flattenMembers (space : String) : List Member → List (String × Declaration)
  | [] => []
  | member :: rest => flattenMember space member ++ flattenMembers space rest

end

/-- The declarations of a file, each with its namespace. -/
def flatten (file : File) : List (String × Declaration) :=
  match file.body with
  | .plain members => flattenMembers "" members
  | .space name _ members => flattenMembers name.text members

/-- What the declarations of a file say. -/
def declarationsOf (file : File) : Except NumeralError (List TypeDeclaration) :=
  (flatten file).mapM fun (space, declaration) => declarationOf space declaration

/-- The declarations that a text lists, with full names that may repeat. -/
def readDeclarations (text : List Char) : Except ScanError (List TypeDeclaration) :=
  match readFile text with
  | .error error => .error (.malformed error)
  | .ok file => (declarationsOf file).mapError .numeral

/-- Declarations whose full names are all different. -/
def distinct (declarations : List TypeDeclaration) : Except ScanError (List TypeDeclaration) :=
  match repeatedName? (declarations.map fun declaration => (declaration.space, declaration.name)) with
  | some fullName => .error (.repeated fullName)
  | none => .ok declarations

/-- The declarations that a text lists. -/
def scan (text : List Char) : Except ScanError (List TypeDeclaration) :=
  (readDeclarations text).bind distinct

end TypedId.Scan
