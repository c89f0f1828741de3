/-!
# Sets of code points

A property of characters is given by the runs of consecutive code points that have it. `Runs.covers` looks a code
point up; over an ascending list it agrees with membership in one of the runs.
-/

set_option autoImplicit false

namespace TypedId.Unicode

/-- Runs of code points in ascending order, each by its first and last member. -/
abbrev Runs := List (Nat × Nat)

/-- Whether a code point lies in one of the runs; the search ends at the first run that begins beyond it. -/
def Runs.covers : Runs → Nat → Bool
  | [], _ => false
  | (first, last) :: rest, code =>
    if code < first then false else if code ≤ last then true else Runs.covers rest code

/-- Whether a character has the property given by the runs. -/
def Runs.has (runs : Runs) (c : Char) : Bool :=
  runs.covers c.toNat

end TypedId.Unicode
