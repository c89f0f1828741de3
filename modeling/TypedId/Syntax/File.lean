import TypedId.Syntax.Declaration
import TypedId.Syntax.Using

/-!
# Declaration files

A file begins with using directives. Then it holds members, which are type declarations and namespaces in braces, or
one namespace declared for the whole rest of the file. A namespace may have directives of its own in front of its
members.
-/

set_option autoImplicit false

namespace TypedId.Syntax

open Grammar

/-- A type declaration or a namespace in braces, which a semicolon may follow. -/
inductive Member where
  | type (declaration : Declaration)
  | space (name : QualifiedName) (usings : List Using) (members : List Member) (semicolon : Bool)

/-- What a file holds behind its leading directives. -/
inductive FileBody where
  | plain (members : List Member)
  /-- One namespace for the rest of the file. -/
  | space (name : QualifiedName) (usings : List Using) (members : List Member)

/-- A declaration file. -/
structure File where
  usings : List Using
  body : FileBody

/-- The tokens of directives. -/
def usingsTokens (usings : List Using) : List Token :=
  usings.flatMap Using.tokens

/-- The tokens in front of the contents of a namespace in braces. -/
def openingTokens (name : QualifiedName) : List Token :=
  .mark .namespaceWord :: name.tokens ++ [.mark .leftBrace]

mutual

/-- The tokens of a member. -/
def Member.tokens : Member → List Token
  | .type declaration => declaration.tokens
  | .space name usings members semicolon =>
    openingTokens name ++ (usingsTokens usings ++ membersTokens members) ++ .mark .rightBrace
      :: semicolonTokens semicolon

/-- The tokens of members. -/
def membersTokens : List Member → List Token
  | [] => []
  | member :: rest => member.tokens ++ membersTokens rest

end

/-- One more member adds its tokens. -/
theorem membersTokens_append (members : List Member) (member : Member) :
    membersTokens (members ++ [member]) = membersTokens members ++ member.tokens := by
  induction members with
  | nil => simp [membersTokens]
  | cons first rest ih => simp [membersTokens, ih]

/-- The tokens of the declaration of a namespace for the rest of a file. -/
def headerTokens (name : QualifiedName) : List Token :=
  .mark .namespaceWord :: name.tokens ++ [.mark .semicolon]

/-- The tokens of what follows the leading directives. -/
def FileBody.tokens : FileBody → List Token
  | .plain members => membersTokens members
  | .space name usings members => headerTokens name ++ (usingsTokens usings ++ membersTokens members)

/-- The tokens of a file. -/
def File.tokens (file : File) : List Token :=
  usingsTokens file.usings ++ file.body.tokens

/-- A member up to its closing brace, which a semicolon may follow. -/
inductive Block where
  | type (front : Front) (kind : KindWords) (name : String)
  | space (name : QualifiedName) (usings : List Using) (members : List Member)

/-- The member that a block is, with or without a semicolon. -/
def Block.toMember (semicolon : Bool) : Block → Member
  | .type front kind name => .type ⟨front, kind, name, .braces semicolon⟩
  | .space name usings members => .space name usings members semicolon

/-- A semicolon behind a block is its last token. -/
theorem Block.tokens_toMember (block : Block) :
    (block.toMember true).tokens = (block.toMember false).tokens ++ [.mark .semicolon] := by
  cases block <;> simp [toMember, Member.tokens, Declaration.tokens, Body.tokens, semicolonTokens]

end TypedId.Syntax
