import TypedId.Unicode.IdentifierContinue
import TypedId.Unicode.IdentifierStart

/-!
# Identifiers and dotted paths

An identifier is a letter or an underscore followed by letters, digits, marks and underscores of any script. A
dotted path is a sequence of identifiers with a point between neighbours. `segments` cuts a text at its points and
`joinDots` puts the pieces together again.
-/

set_option autoImplicit false

namespace TypedId.Text

/-- Whether the characters form an identifier. -/
def isIdentifierChars : List Char → Bool
  | [] => false
  | c :: rest => Unicode.identifierStart.has c && rest.all Unicode.identifierContinue.has

/-- Whether a text is an identifier. -/
def isIdentifier (text : String) : Bool :=
  isIdentifierChars text.toList

/-- Cuts characters at every separator; the pieces are never none, since the part after the last separator counts. -/
def cutAt (separator : Char) : List Char → List (List Char)
  | [] => [[]]
  | c :: rest =>
    if c = separator then [] :: cutAt separator rest
    else
      match cutAt separator rest with
      | [] => [[c]]
      | piece :: pieces => (c :: piece) :: pieces

/-- The pieces of a text between its points. -/
def segments (text : String) : List String :=
  (cutAt '.' text.toList).map String.ofList

/-- The piece of a text after its last point, or the whole text where there is none. -/
def lastSegment (text : String) : String :=
  String.ofList (text.toList.reverse.takeWhile (· != '.')).reverse

/-- Pieces with a point between neighbours. -/
def joinDots (pieces : List String) : String :=
  ".".intercalate pieces

/-- Whether a text is empty or a dotted path of identifiers. -/
def isDottedPath (text : String) : Bool :=
  text.isEmpty || (segments text).all isIdentifier

/-- A name inside a namespace; the empty namespace adds nothing to the name. -/
def qualify (space name : String) : String :=
  if space.isEmpty then name else space ++ "." ++ name

end TypedId.Text
