/-!
# Similar words

The likeness of two words is measured by what they share: the longest common piece, then likewise what stands before
it and what stands behind it in both. A word is close to another when the shared characters, counted in both, make up
at least three fifths of all their characters.
-/

set_option autoImplicit false

namespace TypedId.Text

/-- The length of the longest common beginning. -/
def commonStart : List Char → List Char → Nat
  | a :: as, b :: bs => if a = b then commonStart as bs + 1 else 0
  | _, _ => 0

/-- The longest piece of the second word that begins like the first word: its place and length; of pieces of the same
length the first. -/
def bestStart (first : List Char) (place : Nat) : List Char → Nat × Nat
  | [] => (0, 0)
  | b :: bs =>
    let here := commonStart first (b :: bs)
    let (later, length) := bestStart first (place + 1) bs
    if length ≤ here then (place, here) else (later, length)

/-- The longest common piece of two words: its places in both and its length; of pieces of the same length the one
that is first in the first word, then first in the second. -/
def longestCommon (place : Nat) : List Char → List Char → Nat × Nat × Nat
  | [], _ => (0, 0, 0)
  | a :: as, second =>
    let (other, here) := bestStart (a :: as) 0 second
    let (later, otherLater, length) := longestCommon (place + 1) as second
    if length ≤ here then (place, other, here) else (later, otherLater, length)

/-- How many characters two words share; the fuel bounds the number of pieces. -/
def sharedWithin : Nat → List Char → List Char → Nat
  | 0, _, _ => 0
  | fuel + 1, first, second =>
    let (i, j, length) := longestCommon 0 first second
    if length = 0 then 0
    else
      sharedWithin fuel (first.take i) (second.take j) + length
        + sharedWithin fuel (first.drop (i + length)) (second.drop (j + length))

/-- How many characters two words share. -/
def sharedCount (first second : String) : Nat :=
  sharedWithin (first.length + 1) first.toList second.toList

/-- Whether two words are close to each other. -/
def isClose (word candidate : String) : Bool :=
  3 * (candidate.length + word.length) ≤ 10 * sharedCount candidate word

/-- How many close words are suggested. -/
def closeLimit : Nat := 3

/-- Whether the likeness of one candidate to a word exceeds that of another; ties go by the later spelling. -/
def closerThan (word a b : String) : Bool :=
  let left := sharedCount a word * (b.length + word.length)
  let right := sharedCount b word * (a.length + word.length)
  right < left || (left == right && b < a)

/-- The candidates closest to a word, in alphabetical order. -/
def closeWords (word : String) (candidates : List String) : List String :=
  let close := (candidates.filter (isClose word)).mergeSort fun a b => !closerThan word b a
  (close.take closeLimit).mergeSort fun a b => !(b < a)

end TypedId.Text
