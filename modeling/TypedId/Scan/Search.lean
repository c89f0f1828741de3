import TypedId.Grammar.Lexeme
import TypedId.Scan.SyntaxError
import TypedId.Syntax.Reading

/-!
# All readings of a text

A text is read in all ways at once. At each character some readings have just arrived and go on, by an ignored piece
or by the lexeme of any terminal that may follow, while others are still inside a lexeme. Readings that arrive at the
same place of the grammar have the same future, so one of them is kept: the one whose last lexeme began first.

The search looks for ignored pieces at every character, also at those that no reading stops at. It gives a text up at
the first character where no reading goes on and behind which no ignored piece found so far reaches.
-/

set_option autoImplicit false

namespace TypedId.Scan

open Grammar Syntax

/-- A reading that arrives after a number of further characters. -/
structure Candidate where
  wait : Nat
  reading : Reading

/-- How a reading goes on over the ignored piece at the front of a text. -/
def overIgnored (text : List Char) (reading : Reading) : List Candidate :=
  match ignored? text with
  | some piece => [⟨piece.length, reading⟩]
  | none => []

/-- How a reading goes on over the lexeme of a terminal at the front of a text. -/
def overLexeme? (text : List Char) (reading : Reading) (terminal : Terminal) : Option Candidate :=
  (terminal.lexeme? text).bind fun lexeme =>
    (reading.next? (terminal.token (String.ofList lexeme))).map fun next => ⟨lexeme.length, next⟩

/-- All ways in which a reading goes on. -/
def successors (text : List Char) (reading : Reading) : List Candidate :=
  overIgnored text reading ++ Terminal.all.filterMap (overLexeme? text reading)

/-- Keeps the first reading of every place. -/
def distinctPlaces : List Reading → List Reading
  | [] => []
  | reading :: rest =>
    reading :: (distinctPlaces rest).filter fun other => other.place != reading.place

/-- The readings that have arrived, one for each place. -/
def arrived (candidates : List Candidate) : List Reading :=
  distinctPlaces ((candidates.filter fun candidate => candidate.wait == 0).map Candidate.reading)

/-- The candidates that are still inside a lexeme. -/
def underway (candidates : List Candidate) : List Candidate :=
  candidates.filter fun candidate => candidate.wait != 0

/-- A candidate one character later. -/
def Candidate.tick (candidate : Candidate) : Candidate :=
  { candidate with wait := candidate.wait - 1 }

/-- What may follow any of the readings, in the order of the labels. -/
def expectedAt (readings : List Reading) : List Terminal :=
  Terminal.all.filter fun terminal => readings.any fun reading => (reading.place.next? terminal).isSome

/-- How many characters an ignored piece takes at the front of a text. -/
def ignoredLength (text : List Char) : Nat :=
  ((ignored? text).map List.length).getD 0

/-- Reads the rest of a text, of which the characters before are given nearest first. The ignored pieces found before
reach over its first `reach` characters. -/
def searchFrom (before : List Char) (reach : Nat) (candidates : List Candidate) :
    List Char → Except SyntaxError File
  | [] =>
    match (arrived candidates).findSome? Reading.finish? with
    | some file => .ok file
    | none => .error (.unexpectedEnd (expectedAt (arrived candidates)))
  | c :: rest =>
    let readings := arrived candidates
    let onward := underway candidates ++ readings.flatMap (successors (c :: rest))
    let reach := max reach (ignoredLength (c :: rest))
    if onward.isEmpty && reach ≤ 1 then .error (.unexpectedCharacter before.reverse c rest (expectedAt readings))
    else searchFrom (c :: before) (reach - 1) (onward.map Candidate.tick) rest

/-- The declaration file that a text writes. -/
def readFile (text : List Char) : Except SyntaxError File :=
  searchFrom [] 0 [⟨0, .start⟩] text

end TypedId.Scan
