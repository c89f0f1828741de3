/-!
# UTF-8

`decode` reads bytes as UTF-8 and stops at the first place that is no character. The error tells which bytes are at
fault and how: a byte that begins no character, a character broken off by a byte that does not continue it, or the
end of the bytes inside a character. `encode` writes characters as bytes.
-/

set_option autoImplicit false

namespace TypedId.Text.Utf8

/-- What is wrong with a byte sequence. -/
inductive Fault where
  | invalidStart
  | invalidContinuation
  | unexpectedEnd
  deriving DecidableEq, Repr

/-- A fault, the first byte concerned, its value, and the number of bytes concerned. -/
structure DecodeError where
  fault : Fault
  position : Nat
  byte : Nat
  count : Nat
  deriving DecidableEq, Repr

/-- The reason that a message gives for a fault. -/
def Fault.reason : Fault → String
  | .invalidStart => "invalid start byte"
  | .invalidContinuation => "invalid continuation byte"
  | .unexpectedEnd => "unexpected end of data"

/-- A byte as two hexadecimal digits. -/
def hexByte (byte : Nat) : String :=
  String.ofList [Nat.digitChar (byte / 16), Nat.digitChar (byte % 16)]

/-- The wording of a decoding error. -/
def DecodeError.message (e : DecodeError) : String :=
  if e.count = 1 then
    "'utf-8' codec can't decode byte 0x" ++ hexByte e.byte ++ " in position " ++ toString e.position ++ ": "
      ++ e.fault.reason
  else
    "'utf-8' codec can't decode bytes in position " ++ toString e.position ++ "-"
      ++ toString (e.position + e.count - 1) ++ ": " ++ e.fault.reason

/-- Whether a byte continues a character. -/
def isContinuation (byte : Nat) : Bool :=
  0x80 ≤ byte && byte < 0xC0

/-- Whether a byte may come second after a first byte; the bounds exclude overlong forms, surrogates and numbers
beyond the last code point. -/
def isSecond (first byte : Nat) : Bool :=
  if first = 0xE0 then 0xA0 ≤ byte && byte < 0xC0
  else if first = 0xED then 0x80 ≤ byte && byte < 0xA0
  else if first = 0xF0 then 0x90 ≤ byte && byte < 0xC0
  else if first = 0xF4 then 0x80 ≤ byte && byte < 0x90
  else isContinuation byte

/-- How many bytes continue a character with this first byte, or nothing where no character begins with it. -/
def continuationCount? (first : Nat) : Option Nat :=
  if first < 0x80 then some 0
  else if 0xC2 ≤ first && first < 0xE0 then some 1
  else if 0xE0 ≤ first && first < 0xF0 then some 2
  else if 0xF0 ≤ first && first < 0xF5 then some 3
  else none

/-- The bits of a first byte that belong to the code point. -/
def leadingBits (first : Nat) : Nat :=
  if first < 0x80 then first
  else if first < 0xE0 then first - 0xC0
  else if first < 0xF0 then first - 0xE0
  else first - 0xF0

/-- What has been read of an unfinished character: its first byte, its place, the number of bytes read, the bits
gathered and the number of bytes missing. -/
structure Broken where
  first : Nat
  start : Nat
  seen : Nat
  bits : Nat
  missing : Nat

/-- Reads on from a byte position, with the characters read so far nearest first and the broken-off one, if any. -/
def decodeFrom (position : Nat) (read : List Char) (pending : Option Broken) :
    List Nat → Except DecodeError (List Char)
  | [] =>
    match pending with
    | none => .ok read.reverse
    | some p => .error ⟨.unexpectedEnd, p.start, p.first, p.seen⟩
  | byte :: rest =>
    match pending with
    | none =>
      match continuationCount? byte with
      | none => .error ⟨.invalidStart, position, byte, 1⟩
      | some 0 => decodeFrom (position + 1) (Char.ofNat byte :: read) none rest
      | some (k + 1) => decodeFrom (position + 1) read (some ⟨byte, position, 1, leadingBits byte, k + 1⟩) rest
    | some p =>
      if (if p.seen = 1 then isSecond p.first byte else isContinuation byte) then
        let bits := p.bits * 64 + (byte - 0x80)
        if p.missing = 1 then decodeFrom (position + 1) (Char.ofNat bits :: read) none rest
        else decodeFrom (position + 1) read
          (some { p with seen := p.seen + 1, bits := bits, missing := p.missing - 1 }) rest
      else .error ⟨.invalidContinuation, p.start, p.first, p.seen⟩

/-- The characters that bytes write in UTF-8. -/
def decode (bytes : List Nat) : Except DecodeError (List Char) :=
  decodeFrom 0 [] none bytes

/-- The bytes of a code point. -/
def encodePoint (point : Nat) : List Nat :=
  if point < 0x80 then [point]
  else if point < 0x800 then [0xC0 + point / 0x40, 0x80 + point % 0x40]
  else if point < 0x10000 then [0xE0 + point / 0x1000, 0x80 + point / 0x40 % 0x40, 0x80 + point % 0x40]
  else
    [0xF0 + point / 0x40000, 0x80 + point / 0x1000 % 0x40, 0x80 + point / 0x40 % 0x40, 0x80 + point % 0x40]

/-- The bytes that write characters in UTF-8. -/
def encode (chars : List Char) : List Nat :=
  chars.flatMap fun c => encodePoint c.toNat

end TypedId.Text.Utf8
