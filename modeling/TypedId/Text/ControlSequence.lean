/-!
# Control sequences

A terminal obeys a control sequence instead of showing it. The sequence is an escape character and an opening bracket,
then parameters, then intermediate characters, and one final character. The three classes are disjoint, so a place in
a text begins at most one sequence. `withoutControls` leaves sequences out; what comes together when one is left out
is not looked through again.
-/

set_option autoImplicit false

namespace TypedId.Text

/-- Characters of the parameters of a control sequence. -/
def isParameter (c : Char) : Bool :=
  '0' ≤ c && c ≤ '?'

/-- Characters between the parameters of a control sequence and its end. -/
def isIntermediate (c : Char) : Bool :=
  ' ' ≤ c && c ≤ '/'

/-- Characters that end a control sequence. -/
def isFinal (c : Char) : Bool :=
  '@' ≤ c && c ≤ '~'

/-- What stands behind the control sequence at the front of a text. -/
def behindControl? : List Char → Option (List Char)
  | '\x1b' :: '[' :: rest =>
    match (rest.dropWhile isParameter).dropWhile isIntermediate with
    | c :: behind => if isFinal c then some behind else none
    | [] => none
  | _ => none

/-- A control sequence has at least one character. -/
theorem length_behindControl?_lt {text behind : List Char} (h : behindControl? text = some behind) :
    behind.length < text.length := by
  unfold behindControl? at h
  split at h
  · next rest =>
    split at h
    · next c more heq =>
      split at h
      · cases h
        have inner := (List.dropWhile_sublist isParameter (l := rest)).length_le
        have outer := (List.dropWhile_sublist isIntermediate (l := rest.dropWhile isParameter)).length_le
        rw [heq] at outer
        simp only [List.length_cons] at outer ⊢
        omega
      · cases h
    · cases h
  · cases h

/-- Characters with the control sequences left out. -/
def dropControls (text : List Char) : List Char :=
  match _h : behindControl? text with
  | some behind => dropControls behind
  | none =>
    match text with
    | [] => []
    | c :: rest => c :: dropControls rest
termination_by text.length
decreasing_by
  · exact length_behindControl?_lt _h
  · simp

/-- A text with the control sequences left out. -/
def withoutControls (text : String) : String :=
  String.ofList (dropControls text.toList)

end TypedId.Text
