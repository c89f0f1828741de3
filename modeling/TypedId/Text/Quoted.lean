import TypedId.Unicode.Unprintable

/-!
# Quoted texts in messages

A text inside a message stands in single quotes, or in double quotes when it holds a single and no double one. The
quote, the backslash, line ends and tabs are escaped by a letter, other characters without a visible form by their
number in two, four or eight hexadecimal digits. The code points of a text may include unpaired surrogates, which
have no visible form.
-/

set_option autoImplicit false

namespace TypedId.Text

/-- Lower-case hexadecimal digits of a number, padded with zeros to a width. -/
def hexDigits : Nat → Nat → List Char
  | 0, _ => []
  | width + 1, n => hexDigits width (n / 16) ++ [Nat.digitChar (n % 16)]

/-- The mark that encloses a text. -/
def quoteMark (points : List Nat) : Nat :=
  if points.contains 0x27 && !points.contains 0x22 then 0x22 else 0x27

/-- One code point inside quotes made by `mark`. -/
def quotePoint (mark point : Nat) : List Char :=
  if point = mark || point = 0x5C then ['\\', Char.ofNat point]
  else if point = 0x0A then ['\\', 'n']
  else if point = 0x0D then ['\\', 'r']
  else if point = 0x09 then ['\\', 't']
  else if Unicode.unprintable.covers point then
    if point < 0x100 then '\\' :: 'x' :: hexDigits 2 point
    else if point < 0x10000 then '\\' :: 'u' :: hexDigits 4 point
    else '\\' :: 'U' :: hexDigits 8 point
  else [Char.ofNat point]

/-- A text, given by its code points, in quotes. -/
def quotePoints (points : List Nat) : String :=
  let mark := quoteMark points
  String.ofList (Char.ofNat mark :: points.flatMap (quotePoint mark) ++ [Char.ofNat mark])

/-- A text in quotes. -/
def quote (text : String) : String :=
  quotePoints (text.toList.map Char.toNat)

end TypedId.Text
