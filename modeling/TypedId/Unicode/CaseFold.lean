/-!
# Case folding to ASCII letters

Words are compared without regard to case by folding them. Only characters whose folding consists of ASCII letters
can make a word equal to an ASCII one: the ASCII capitals, the long s, the Kelvin sign, the sharp s and the Latin
ligatures. Other characters stand for themselves here.
-/

set_option autoImplicit false

namespace TypedId.Unicode

/-- Characters beyond ASCII whose folding is ASCII, by code point. -/
def asciiFoldings : List (Nat × String) :=
  [(0xDF, "ss"), (0x17F, "s"), (0x1E9E, "ss"), (0x212A, "k"), (0xFB00, "ff"), (0xFB01, "fi"), (0xFB02, "fl"),
   (0xFB03, "ffi"), (0xFB04, "ffl"), (0xFB05, "st"), (0xFB06, "st")]

/-- The characters that a character folds to. -/
def foldChar (c : Char) : List Char :=
  match asciiFoldings.find? fun entry => entry.1 == c.toNat with
  | some entry => entry.2.toList
  | none => [c.toLower]

/-- The folding of a word, as far as it matters for equality with ASCII words. -/
def foldCase (word : String) : String :=
  String.ofList (word.toList.flatMap foldChar)

end TypedId.Unicode
