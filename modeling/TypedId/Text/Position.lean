/-!
# Places in a text

A place is counted in characters from the start and, for readers, in lines and columns from one. Only the line feed
ends a line.
-/

set_option autoImplicit false

namespace TypedId.Text

/-- A place in a text. -/
structure Position where
  offset : Nat
  line : Nat
  column : Nat
  deriving DecidableEq, Repr

/-- The first place of a text. -/
def Position.start : Position :=
  ⟨0, 1, 1⟩

/-- The place behind one more character. -/
def Position.advance (place : Position) (c : Char) : Position :=
  if c = '\n' then ⟨place.offset + 1, place.line + 1, 1⟩ else ⟨place.offset + 1, place.line, place.column + 1⟩

/-- The place behind the given characters. -/
def Position.after (chars : List Char) : Position :=
  chars.foldl Position.advance .start

end TypedId.Text
