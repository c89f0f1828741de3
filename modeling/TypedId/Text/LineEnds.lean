/-!
# Line ends

Files may end their lines by a line feed, a carriage return or both; inside a text only the line feed is used.
-/

set_option autoImplicit false

namespace TypedId.Text

/-- Characters with every line end made a line feed. -/
def unifyLineEnds : List Char → List Char
  | [] => []
  | '\r' :: '\n' :: rest => '\n' :: unifyLineEnds rest
  | '\r' :: rest => '\n' :: unifyLineEnds rest
  | c :: rest => c :: unifyLineEnds rest

end TypedId.Text
