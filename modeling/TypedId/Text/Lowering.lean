import TypedId.Unicode.CaseContext
import TypedId.Unicode.LowerCase

/-!
# Lower case of a text

Each character is replaced by its own lower case. Only the capital sigma looks around: at the end of a word it
becomes the final form, elsewhere the ordinary one.
-/

set_option autoImplicit false

namespace TypedId.Text

/-- Whether the first character that is not case-ignorable is cased. -/
def nearestIsCased : List Char → Bool
  | [] => false
  | c :: rest => if Unicode.caseIgnorable.has c then nearestIsCased rest else Unicode.cased.has c

/-- Whether a capital sigma ends its word, from the characters before it, nearest first, and those after it. -/
def endsWord (before after : List Char) : Bool :=
  nearestIsCased before && !nearestIsCased after

/-- Lower case of the characters that follow `before`, which is given nearest first. -/
def lowerAfter (before : List Char) : List Char → List Char
  | [] => []
  | c :: rest =>
    (if c = 'Σ' then [if endsWord before rest then 'ς' else 'σ'] else Unicode.lowerChars c)
      ++ lowerAfter (c :: before) rest

/-- Lower case of a text. -/
def lower (text : String) : String :=
  String.ofList (lowerAfter [] text.toList)

end TypedId.Text
