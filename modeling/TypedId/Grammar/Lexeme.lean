import TypedId.Grammar.Terminal

/-!
# Lexemes

At a place in a text each terminal has at most one lexeme, the longest piece of its form that begins there. Blank
space, comments and lines that begin with a number sign are ignored; a place has at most one ignored piece.
-/

set_option autoImplicit false

namespace TypedId.Grammar

/-- Letters and the underscore, which begin a name. -/
def isNameStart (c : Char) : Bool :=
  c.isAlpha || c == '_'

/-- Letters, digits and the underscore, which continue a name. -/
def isNameRest (c : Char) : Bool :=
  c.isAlphanum || c == '_'

/-- The spellings of the modifiers; none is the beginning of another. -/
def modifierWords : List String :=
  ["public", "internal", "private", "protected", "file", "readonly", "ref", "partial", "sealed", "static",
   "abstract", "unsafe", "new"]

/-- A word, if the text begins with it. -/
def word? (word : String) (text : List Char) : Option (List Char) :=
  if word.toList.isPrefixOf text then some word.toList else none

/-- The name at the front of a text. -/
def name? : List Char → Option (List Char)
  | [] => none
  | c :: rest => if isNameStart c then some (c :: rest.takeWhile isNameRest) else none

/-- Digits of a hexadecimal literal, which may be grouped by underscores. -/
def isHexPart (c : Char) : Bool :=
  c.isDigit || ('a' ≤ c && c ≤ 'f') || ('A' ≤ c && c ≤ 'F') || c == '_'

/-- Digits of a decimal literal, which may be grouped by underscores. -/
def isDecimalPart (c : Char) : Bool :=
  c.isDigit || c == '_'

/-- Letters that state the type of an integer literal. -/
def isIntegerSuffix (c : Char) : Bool :=
  c == 'u' || c == 'U' || c == 'l' || c == 'L'

/-- The digits of an unsigned literal, with the base mark of a hexadecimal one. -/
def magnitude? : List Char → Option (List Char)
  | [] => none
  | c :: rest =>
    match rest with
    | x :: more =>
      if c = '0' && (x == 'x' || x == 'X') && more.head?.any isHexPart then
        some (c :: x :: more.takeWhile isHexPart)
      else if c.isDigit then some (c :: rest.takeWhile isDecimalPart) else none
    | [] => if c.isDigit then some [c] else none

/-- An unsigned literal with its type suffix. -/
def unsigned? (text : List Char) : Option (List Char) :=
  (magnitude? text).map fun digits => digits ++ (text.drop digits.length).takeWhile isIntegerSuffix

/-- The integer literal at the front of a text. -/
def integer? : List Char → Option (List Char)
  | '-' :: rest => (unsigned? rest).map ('-' :: ·)
  | text => unsigned? text

/-- The rest of a string up to its closing quote, which is a quote after an even number of backslashes; `escaped`
says whether an odd number of them stands in front. -/
def stringRest? (escaped : Bool) : List Char → Option (List Char)
  | [] => none
  | c :: rest =>
    if c = '\n' then none
    else if c = '"' && !escaped then some [c]
    else (stringRest? (c == '\\' && !escaped) rest).map (c :: ·)

/-- The string literal at the front of a text. -/
def string? : List Char → Option (List Char)
  | '"' :: rest => (stringRest? false rest).map ('"' :: ·)
  | _ => none

/-- The lexeme of a terminal at the front of a text. -/
def Terminal.lexeme? (text : List Char) : Terminal → Option (List Char)
  | .mark word => word? word.text text
  | .modifier => modifierWords.findSome? (word? · text)
  | .name => name? text
  | .integer => integer? text
  | .string => string? text

/-- Blank space between tokens. -/
def isBlank (c : Char) : Bool :=
  c == ' ' || c == '\t' || c == '\x0c' || c == '\r' || c == '\n'

/-- A comment in slashes and stars after its opening, up to the first closing. -/
def commentRest? : List Char → Option (List Char)
  | '*' :: '/' :: _ => some ['*', '/']
  | c :: rest => (commentRest? rest).map (c :: ·)
  | [] => none

/-- The ignored piece at the front of a text. -/
def ignored? : List Char → Option (List Char)
  | [] => none
  | c :: rest =>
    if isBlank c then some (c :: rest.takeWhile isBlank)
    else if c = '#' then some (c :: rest.takeWhile (· != '\n'))
    else if c = '/' then
      match rest with
      | '/' :: more => some ('/' :: '/' :: more.takeWhile (· != '\n'))
      | '*' :: more => (commentRest? more).map ('/' :: '*' :: ·)
      | _ => none
    else none

end TypedId.Grammar
