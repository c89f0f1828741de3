import TypedId.Text.Quoted
import TypedId.Unicode.Blank
import TypedId.Unicode.Digit

/-!
# Numerals

A decimal numeral may use the digits of any script, also mixed. At most `digitLimit` digits are converted, leading
zeros included; hexadecimal numerals have no limit.
-/

set_option autoImplicit false

namespace TypedId.Text

/-- Why a text is no usable numeral. -/
inductive NumeralError where
  /-- The text is not written as a numeral of this base. -/
  | malformed (base : Nat) (text : String)
  /-- The numeral has more digits than are converted. -/
  | tooLong (digits : Nat)
  deriving DecidableEq, Repr

/-- The greatest number of decimal digits that are converted. -/
def digitLimit : Nat := 4300

/-- How much of a quoted text a numeral error shows. -/
def shownLength : Nat := 200

/-- The wording of a numeral error. -/
def NumeralError.message : NumeralError → String
  | .malformed base text =>
    "invalid literal for int() with base " ++ toString base ++ ": "
      ++ String.ofList ((quote text).toList.take shownLength)
  | .tooLong digits =>
    "Exceeds the limit (" ++ toString digitLimit ++ " digits) for integer string conversion: value has "
      ++ toString digits ++ " digits; use sys.set_int_max_str_digits() to increase the limit"

/-- The value of a decimal digit of any script. -/
def decimalDigit? (c : Char) : Option Nat :=
  (Unicode.zeros.find? fun first => first ≤ c.toNat && c.toNat < first + 10).map fun first => c.toNat - first

/-- Whether a character is a digit, be it of a numeral or an ornamental one. -/
def isDigit (c : Char) : Bool :=
  (decimalDigit? c).isSome || Unicode.ornamentalDigits.has c

/-- The decimal digits that a text begins with, and what follows them. -/
def takeDigits : List Char → List Nat × List Char
  | [] => ([], [])
  | c :: rest =>
    match decimalDigit? c with
    | some digit => let (digits, left) := takeDigits rest; (digit :: digits, left)
    | none => ([], c :: rest)

/-- The number written by digits of a base, the most significant first. -/
def valueOf (base : Nat) (digits : List Nat) : Nat :=
  digits.foldl (fun value digit => value * base + digit) 0

/-- The integer that a text writes in decimal, with at most one minus sign in front. -/
def readDecimal (text : String) : Except NumeralError Int :=
  let (negative, body) := match text.toList with
    | '-' :: rest => (true, rest)
    | chars => (false, chars)
  let (digits, left) := takeDigits body
  if digitLimit < digits.length then .error (.tooLong digits.length)
  else if digits.isEmpty || !left.isEmpty then .error (.malformed 10 text)
  else .ok (if negative then -(valueOf 10 digits : Int) else valueOf 10 digits)

/-- The value of a hexadecimal digit. -/
def hexDigit? (c : Char) : Option Nat :=
  if '0' ≤ c && c ≤ '9' then some (c.toNat - '0'.toNat)
  else if 'a' ≤ c && c ≤ 'f' then some (c.toNat - 'a'.toNat + 10)
  else if 'A' ≤ c && c ≤ 'F' then some (c.toNat - 'A'.toNat + 10)
  else none

/-- The number that a text of hexadecimal digits writes. -/
def readHex (digits : List Char) : Except NumeralError Nat :=
  match digits.mapM hexDigit? with
  | some values => if values.isEmpty then .error (.malformed 16 "") else .ok (valueOf 16 values)
  | none => .error (.malformed 16 (String.ofList digits))

/-- A text without the blanks at its ends. -/
def strip (text : String) : String :=
  String.ofList ((text.toList.dropWhile Unicode.blank.has).reverse.dropWhile Unicode.blank.has).reverse

end TypedId.Text
