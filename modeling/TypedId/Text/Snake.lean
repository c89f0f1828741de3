import TypedId.Text.Lowering

/-!
# Snake case

The words of a compound name are told apart by their capitals: a capital begins a word when a small letter or a
digit stands before it, and the last capital of a run begins one when a small letter follows it. `snakeCase` puts an
underscore before every such capital and takes the lower case of the whole.
-/

set_option autoImplicit false

namespace TypedId.Text

/-- Whether a capital after `before` and in front of the characters `after` begins a word. -/
def beginsWord (before : Char) (after : List Char) : Bool :=
  before.isLower || before.isDigit || (before.isUpper && after.head?.any Char.isLower)

/-- Puts an underscore before every character that begins a word, given the character before the first. -/
def separateWords (before : Char) : List Char → List Char
  | [] => []
  | c :: rest =>
    if c.isUpper && beginsWord before rest then '_' :: c :: separateWords c rest
    else c :: separateWords c rest

/-- Characters of a name with an underscore between neighbouring words. -/
def wordsOf : List Char → List Char
  | [] => []
  | c :: rest => c :: separateWords c rest

/-- Lower case with an underscore between neighbouring words of a compound name. -/
def snakeCase (name : String) : String :=
  lower (String.ofList (wordsOf name.toList))

end TypedId.Text
