import TypedId.Json.Basic
import TypedId.Text.Numeral
import TypedId.Text.Position

/-!
# Reading JSON

`Json.read` reads a whole text as one JSON value. Beside the standard it accepts the number words `NaN`, `Infinity`
and `-Infinity`; control characters inside strings are refused, and of repeated keys the last value counts. An error
names what was expected at the first place where the text cannot go on.
-/

set_option autoImplicit false

namespace TypedId.Json

/-- What is wrong with a text that is no JSON. -/
inductive Fault where
  | byteOrderMark
  | expectingValue
  | expectingKey
  | expectingColon
  | expectingComma
  | unterminatedString
  | controlCharacter
  | invalidEscape
  | invalidUnicodeEscape
  | extraData
  deriving DecidableEq, Repr

/-- The wording of a fault. -/
def Fault.message : Fault → String
  | .byteOrderMark => "Unexpected UTF-8 BOM (decode using utf-8-sig)"
  | .expectingValue => "Expecting value"
  | .expectingKey => "Expecting property name enclosed in double quotes"
  | .expectingColon => "Expecting ':' delimiter"
  | .expectingComma => "Expecting ',' delimiter"
  | .unterminatedString => "Unterminated string starting at"
  | .controlCharacter => "Invalid control character at"
  | .invalidEscape => "Invalid \\escape"
  | .invalidUnicodeEscape => "Invalid \\uXXXX escape"
  | .extraData => "Extra data"

/-- Why reading stopped: a fault in front of the characters left, or an integer that is not converted. -/
inductive Stop where
  | fault (kind : Fault) (left : List Char)
  | numeral (reason : Text.NumeralError)

/-- Why a text is no JSON value. -/
inductive ReadError where
  | fault (kind : Fault) (place : Text.Position)
  | numeral (reason : Text.NumeralError)
  deriving DecidableEq, Repr

/-- The wording of a reading error. -/
def ReadError.message : ReadError → String
  | .fault kind place =>
    kind.message ++ ": line " ++ toString place.line ++ " column " ++ toString place.column ++ " (char "
      ++ toString place.offset ++ ")"
  | .numeral reason => reason.message

/-- Whether a character may stand between the parts of a JSON text. -/
def isSpace (c : Char) : Bool :=
  c == ' ' || c == '\t' || c == '\n' || c == '\r'

/-- Characters from the first that is no space. -/
def skipSpace (chars : List Char) : List Char :=
  chars.dropWhile isSpace

/-- The number of four hexadecimal digits. -/
def hexNumber? (digits : List Char) : Option Nat :=
  (digits.mapM Text.hexDigit?).map (Text.valueOf 16)

/-- The character that an escape letter stands for. -/
def escaped? : Char → Option Nat
  | '"' => some 0x22
  | '\\' => some 0x5C
  | '/' => some 0x2F
  | 'b' => some 0x08
  | 'f' => some 0x0C
  | 'n' => some 0x0A
  | 'r' => some 0x0D
  | 't' => some 0x09
  | _ => none

/-- Whether a code point is the first half of a surrogate pair. -/
def isHighSurrogate (point : Nat) : Bool :=
  0xD800 ≤ point && point < 0xDC00

/-- Whether a code point is the second half of a surrogate pair. -/
def isLowSurrogate (point : Nat) : Bool :=
  0xDC00 ≤ point && point < 0xE000

/-- The code point of a surrogate pair. -/
def joinSurrogates (high low : Nat) : Nat :=
  0x10000 + (high - 0xD800) * 0x400 + (low - 0xDC00)

/-- Joins a high surrogate read last with a low one that follows it directly; both were written as escapes. -/
def addPoint (read : List (Nat × Bool)) (point : Nat) (byNumber : Bool) : List (Nat × Bool) :=
  match read with
  | (high, true) :: rest =>
    if byNumber && isHighSurrogate high && isLowSurrogate point then (joinSurrogates high point, false) :: rest
    else (point, byNumber) :: read
  | _ => (point, byNumber) :: read

/-- Reads a string after its opening quote; `opening` is what was left in front of that quote. The code points read
are kept nearest first, each with whether an escape gave its number. -/
def readString (opening : List Char) (read : List (Nat × Bool)) : List Char → Except Stop (Text × List Char)
  | [] => .error (.fault .unterminatedString opening)
  | '"' :: rest => .ok (Text.ofPoints (read.reverse.map Prod.fst), rest)
  | '\\' :: [] => .error (.fault .unterminatedString opening)
  | '\\' :: 'u' :: a :: b :: c :: d :: e :: rest =>
    match hexNumber? [a, b, c, d] with
    | some point => readString opening (addPoint read point true) (e :: rest)
    | none => .error (.fault .invalidUnicodeEscape ('u' :: a :: b :: c :: d :: e :: rest))
  | '\\' :: 'u' :: rest => .error (.fault .invalidUnicodeEscape ('u' :: rest))
  | '\\' :: letter :: rest =>
    match escaped? letter with
    | some point => readString opening (addPoint read point false) rest
    | none => .error (.fault .invalidEscape ('\\' :: letter :: rest))
  | c :: rest =>
    if c.toNat < 0x20 then .error (.fault .controlCharacter (c :: rest))
    else readString opening (addPoint read c.toNat false) rest

/-- The decimal digits that characters begin with, and what follows them. -/
def spanDigits (chars : List Char) : List Char × List Char :=
  chars.span Char.isDigit

/-- The number of decimal digits. -/
def digitsValue (digits : List Char) : Nat :=
  Text.valueOf 10 (digits.map fun c => c.toNat - '0'.toNat)

/-- The digits after a decimal point, if characters begin with a point and a digit. -/
def readFraction? : List Char → Option (List Char × List Char)
  | '.' :: rest => let (digits, left) := spanDigits rest; if digits.isEmpty then none else some (digits, left)
  | _ => none

/-- The exponent, if characters begin with one. -/
def readExponent? : List Char → Option (Int × List Char)
  | mark :: rest =>
    if mark == 'e' || mark == 'E' then
      let (negative, body) := match rest with
        | '-' :: more => (true, more)
        | '+' :: more => (false, more)
        | _ => (false, rest)
      let (digits, left) := spanDigits body
      if digits.isEmpty then none
      else some (if negative then -(digitsValue digits : Int) else digitsValue digits, left)
    else none
  | [] => none

/-- Reads what follows the sign of a number; `here` is what was left in front of the sign. -/
def readUnsigned (here : List Char) (negative : Bool) (chars : List Char) : Except Stop (Json × List Char) :=
  let (whole, rest) := match chars with
    | '0' :: rest => (['0'], rest)
    | _ => spanDigits chars
  if whole.isEmpty then .error (.fault .expectingValue here)
  else
    let fraction := readFraction? rest
    let rest := (fraction.map Prod.snd).getD rest
    let exponent := readExponent? rest
    let rest := (exponent.map Prod.snd).getD rest
    if fraction.isNone && exponent.isNone then
      if Text.digitLimit < whole.length then .error (.numeral (.tooLong whole.length))
      else .ok (.integer (if negative then -(digitsValue whole : Int) else digitsValue whole), rest)
    else
      let decimals := (fraction.map Prod.fst).getD []
      let scale := (exponent.map Prod.fst).getD 0 - decimals.length
      .ok (.float (.ofDecimal negative (digitsValue (whole ++ decimals)) scale), rest)

/-- Reads a number or a word that stands for a value. -/
def readAtom : List Char → Except Stop (Json × List Char)
  | 'n' :: 'u' :: 'l' :: 'l' :: rest => .ok (.null, rest)
  | 't' :: 'r' :: 'u' :: 'e' :: rest => .ok (.bool true, rest)
  | 'f' :: 'a' :: 'l' :: 's' :: 'e' :: rest => .ok (.bool false, rest)
  | 'N' :: 'a' :: 'N' :: rest => .ok (.float .nan, rest)
  | 'I' :: 'n' :: 'f' :: 'i' :: 'n' :: 'i' :: 't' :: 'y' :: rest => .ok (.float (.infinite false), rest)
  | '-' :: 'I' :: 'n' :: 'f' :: 'i' :: 'n' :: 'i' :: 't' :: 'y' :: rest => .ok (.float (.infinite true), rest)
  | '-' :: rest => readUnsigned ('-' :: rest) true rest
  | chars => readUnsigned chars false chars

/-- Reads what follows an item: the closing mark, which gives true, or a comma with the spaces behind it. -/
def readSeparator (close : Char) (chars : List Char) : Except Stop (Bool × List Char) :=
  match skipSpace chars with
  | [] => .error (.fault .expectingComma [])
  | c :: rest =>
    if c = close then .ok (true, rest)
    else if c = ',' then .ok (false, skipSpace rest)
    else .error (.fault .expectingComma (c :: rest))

/-- Reads a key and its colon. -/
def readKey (chars : List Char) : Except Stop (Text × List Char) :=
  match chars with
  | '"' :: rest => do
    let (key, rest) ← readString ('"' :: rest) [] rest
    match skipSpace rest with
    | ':' :: rest => .ok (key, skipSpace rest)
    | rest => .error (.fault .expectingColon rest)
  | chars => .error (.fault .expectingKey chars)

mutual

/-- Reads a value at the front of the characters. Every second nested call at least consumes a character, which bounds
the fuel. -/
def readValue : Nat → List Char → Except Stop (Json × List Char)
  | 0, chars => .error (.fault .expectingValue chars)
  | fuel + 1, chars =>
    match chars with
    | '"' :: rest => do
      let (text, rest) ← readString ('"' :: rest) [] rest
      .ok (.string text, rest)
    | '{' :: rest =>
      match skipSpace rest with
      | '}' :: rest => .ok (.object [], rest)
      | rest => readEntries fuel [] rest
    | '[' :: rest =>
      match skipSpace rest with
      | ']' :: rest => .ok (.array [], rest)
      | rest => readItems fuel [] rest
    | chars => readAtom chars

/-- Reads the items of an array that follow those read, which are kept nearest first. -/
def readItems : Nat → List Json → List Char → Except Stop (Json × List Char)
  | 0, _, chars => .error (.fault .expectingValue chars)
  | fuel + 1, items, chars => do
    let (item, rest) ← readValue fuel chars
    let (closed, rest) ← readSeparator ']' rest
    if closed then .ok (.array (item :: items).reverse, rest) else readItems fuel (item :: items) rest

/-- Reads the entries of an object that follow those read. -/
def readEntries : Nat → List (Text × Json) → List Char → Except Stop (Json × List Char)
  | 0, _, chars => .error (.fault .expectingValue chars)
  | fuel + 1, entries, chars => do
    let (key, rest) ← readKey chars
    let (value, rest) ← readValue fuel rest
    let (closed, rest) ← readSeparator '}' rest
    let entries := put entries key value
    if closed then .ok (.object entries, rest) else readEntries fuel entries rest

end

/-- Reads a text with spaces around one value. -/
def readChars (chars : List Char) : Except Stop Json :=
  if chars.head? == some (Char.ofNat 0xFEFF) then .error (.fault .byteOrderMark chars)
  else do
    let (value, rest) ← readValue (2 * chars.length + 2) (skipSpace chars)
    match skipSpace rest with
    | [] => .ok value
    | rest => .error (.fault .extraData rest)

/-- The JSON value that characters write. -/
def read (chars : List Char) : Except ReadError Json :=
  match readChars chars with
  | .ok value => .ok value
  | .error (.numeral reason) => .error (.numeral reason)
  | .error (.fault kind left) => .error (.fault kind (Text.Position.after (chars.take (chars.length - left.length))))

end TypedId.Json
