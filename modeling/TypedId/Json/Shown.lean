import TypedId.Decimal.Shortest
import TypedId.Json.Basic
import TypedId.Text.Quoted

/-!
# Values inside messages

A value that a message quotes is written with its strings in quotes and with the words `None`, `True` and `False`.
-/

set_option autoImplicit false

namespace TypedId.Json

mutual

/-- A value as a message shows it. -/
def shown : Json → String
  | .null => "None"
  | .bool value => if value then "True" else "False"
  | .integer value => toString value
  | .float value => value.text
  | .string text => Text.quotePoints text.points
  | .array items => "[" ++ ", ".intercalate (shownItems items) ++ "]"
  | .object entries => "\x7b" ++ ", ".intercalate (shownEntries entries) ++ "\x7d"

/-- The items of an array as a message shows them. -/
def shownItems : List Json → List String
  | [] => []
  | item :: rest => shown item :: shownItems rest

/-- The entries of an object as a message shows them. -/
def shownEntries : List (Text × Json) → List String
  | [] => []
  | (key, value) :: rest => (Text.quotePoints key.points ++ ": " ++ shown value) :: shownEntries rest

end

end TypedId.Json
