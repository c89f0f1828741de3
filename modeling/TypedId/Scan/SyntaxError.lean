import TypedId.Grammar.Terminal
import TypedId.Text.Position

/-!
# Syntax errors

A text that is no declaration file fails in front of a character or at its end. The error holds the terminals that
could have followed there, which are none when the search went on behind the last place that a reading reached; its
message shows the line around the place.
-/

set_option autoImplicit false

namespace TypedId.Scan

open Grammar Text

/-- Why a text is no declaration file. -/
inductive SyntaxError where
  /-- The text behind `before` goes on with `found` and `rest`, where no reading goes on. -/
  | unexpectedCharacter (before : List Char) (found : Char) (rest : List Char) (expected : List Terminal)
  /-- The text ends where it must go on. -/
  | unexpectedEnd (expected : List Terminal)

/-- How many characters of a line are shown on either side of a place. -/
def contextSpan : Nat := 40

/-- The distance of tab stops in a shown line. -/
def tabWidth : Nat := 8

/-- The last characters of the line that ends with the given text. -/
def shownBefore (before : List Char) : List Char :=
  ((before.reverse.take contextSpan).takeWhile (· != '\n')).reverse

/-- The first characters of the line that begins with the given text. -/
def shownAfter (after : List Char) : List Char :=
  (after.take contextSpan).takeWhile (· != '\n')

/-- The columns that characters take from a column on, with tabs up to the next tab stop; a carriage return begins
the columns anew. -/
def columnsFrom (column : Nat) : List Char → Nat
  | [] => 0
  | c :: rest =>
    if c = '\t' then
      let gap := tabWidth - column % tabWidth
      gap + columnsFrom (column + gap) rest
    else if c = '\r' then 1 + columnsFrom 0 rest
    else 1 + columnsFrom (column + 1) rest

/-- The line around a place with a mark under it. -/
def context (before after : List Char) : String :=
  let shown := shownBefore before
  String.ofList (shown ++ shownAfter after ++ '\n' :: List.replicate (columnsFrom 0 shown) ' ' ++ ['^', '\n'])

/-- The list of what could have followed. -/
def expectedText (expected : List Terminal) : String :=
  "Expected one of: \n" ++ String.join (expected.map fun terminal => "\t* " ++ terminal.label ++ "\n")

/-- The wording of a syntax error. -/
def SyntaxError.message : SyntaxError → String
  | .unexpectedCharacter before found rest expected =>
    let place := Position.after before
    "No terminal matches '" ++ String.ofList [found] ++ "' in the current parser context, at line "
      ++ toString place.line ++ " col " ++ toString place.column ++ "\n\n" ++ context before (found :: rest)
      ++ if expected.isEmpty then "" else expectedText expected
  | .unexpectedEnd expected => "Unexpected end-of-input. " ++ expectedText expected

end TypedId.Scan
