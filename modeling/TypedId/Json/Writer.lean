import TypedId.Decimal.Shortest
import TypedId.Json.Basic
import TypedId.Text.Quoted

/-!
# Writing JSON

`Json.line` writes a value on one line and `Json.page` with one item a line, indented by two spaces a level. Strings
are written in ASCII: other characters are escaped by their UTF-16 units.
-/

set_option autoImplicit false

namespace TypedId.Json

/-- The escape of a UTF-16 unit. -/
def escapeUnit (unit : Nat) : List Char :=
  '\\' :: 'u' :: Text.hexDigits 4 unit

/-- A code point inside a JSON string. -/
def escapePoint (point : Nat) : List Char :=
  if point = 0x22 then ['\\', '"']
  else if point = 0x5C then ['\\', '\\']
  else if point = 0x0A then ['\\', 'n']
  else if point = 0x0D then ['\\', 'r']
  else if point = 0x09 then ['\\', 't']
  else if point = 0x0C then ['\\', 'f']
  else if point = 0x08 then ['\\', 'b']
  else if 0x20 ≤ point && point < 0x7F then [Char.ofNat point]
  else if point < 0x10000 then escapeUnit point
  else escapeUnit (0xD800 + (point - 0x10000) / 0x400) ++ escapeUnit (0xDC00 + (point - 0x10000) % 0x400)

/-- A JSON string. -/
def writeText (text : Text) : String :=
  String.ofList ('"' :: text.points.flatMap escapePoint ++ ['"'])

/-- A number of JSON. -/
def writeFloat : Decimal.Binary64 → String
  | .nan => "NaN"
  | .infinite negative => if negative then "-Infinity" else "Infinity"
  | value => value.text

mutual

/-- A value on one line. -/
def line : Json → String
  | .null => "null"
  | .bool value => if value then "true" else "false"
  | .integer value => toString value
  | .float value => writeFloat value
  | .string text => writeText text
  | .array items => "[" ++ ", ".intercalate (lineItems items) ++ "]"
  | .object entries => "\x7b" ++ ", ".intercalate (lineEntries entries) ++ "\x7d"

/-- The items of an array, each on one line. -/
def lineItems : List Json → List String
  | [] => []
  | item :: rest => line item :: lineItems rest

/-- The entries of an object, each on one line. -/
def lineEntries : List (Text × Json) → List String
  | [] => []
  | (key, value) :: rest => (writeText key ++ ": " ++ line value) :: lineEntries rest

end

/-- The spaces before a line at a level of indentation. -/
def indentation (level : Nat) : String :=
  String.ofList (List.replicate (2 * level) ' ')

/-- Lines between brackets, each indented by one level more than the closing bracket. -/
def bracketed (left right : String) (level : Nat) (lines : List String) : String :=
  if lines.isEmpty then left ++ right
  else
    let start := "\n" ++ indentation (level + 1)
    left ++ start ++ ("," ++ start).intercalate lines ++ "\n" ++ indentation level ++ right

mutual

/-- A value at a level of indentation. -/
def pageAt (level : Nat) : Json → String
  | .array items => bracketed "[" "]" level (pageItems (level + 1) items)
  | .object entries => bracketed "\x7b" "\x7d" level (pageEntries (level + 1) entries)
  | .null => "null"
  | .bool value => if value then "true" else "false"
  | .integer value => toString value
  | .float value => writeFloat value
  | .string text => writeText text

/-- The items of an array at a level of indentation. -/
def pageItems (level : Nat) : List Json → List String
  | [] => []
  | item :: rest => pageAt level item :: pageItems level rest

/-- The entries of an object at a level of indentation. -/
def pageEntries (level : Nat) : List (Text × Json) → List String
  | [] => []
  | (key, value) :: rest => (writeText key ++ ": " ++ pageAt level value) :: pageEntries level rest

end

/-- A value on lines of its own. -/
def page (value : Json) : String :=
  pageAt 0 value

end TypedId.Json
