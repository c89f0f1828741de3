/-!
# Lines of source text

Emitted sources are lists of lines. A line has a depth of indentation, four spaces a level, and a text; a line
without text is empty at any depth. Every line is ended by a line feed.
-/

set_option autoImplicit false

namespace TypedId.Emit

/-- A line of source text. -/
structure Line where
  depth : Nat
  text : String
  deriving DecidableEq, Repr

/-- The spaces at the front of a line. -/
def indentation (depth : Nat) : String :=
  String.ofList (List.replicate (4 * depth) ' ')

/-- A line as it is written. -/
def Line.written (line : Line) : String :=
  if line.text.isEmpty then "" else indentation line.depth ++ line.text

/-- Lines as they are written, each with its line feed. -/
def joinLines (lines : List Line) : String :=
  String.join (lines.map fun line => line.written ++ "\n")

end TypedId.Emit
