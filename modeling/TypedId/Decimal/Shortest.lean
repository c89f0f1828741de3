import TypedId.Decimal.Binary64

/-!
# Shortest decimal text of a floating-point number

A number is written with the fewest decimal digits that read back as the same number; among texts of that length
with the digits nearest to it. Powers of ten from 10 ^ (-4) up to 10 ^ 15 are written positionally, always with a
fractional part, the others with an exponent of at least two digits.
-/

set_option autoImplicit false

namespace TypedId.Decimal

/-- Compares `a * 2 ^ x` with `b * 10 ^ y`. -/
def compareScaled (a : Nat) (x : Int) (b : Nat) (y : Int) : Ordering :=
  compare (a * Nat.pow 2 x.toNat * Nat.pow 10 (-y).toNat) (b * Nat.pow 10 y.toNat * Nat.pow 2 (-x).toNat)

/-- Whether `digits * 10 ^ power` lies among the reals that round to `significand * 2 ^ exponent`. -/
def roundsTo (significand : Nat) (exponent : Int) (digits : Nat) (power : Int) : Bool :=
  let below := if significand = Nat.pow 2 52 && leastExponent < exponent then 1 else 2
  let low := compareScaled (4 * significand - below) (exponent - 2) digits power
  let high := compareScaled (4 * significand + 2) (exponent - 2) digits power
  if significand % 2 = 0 then low != .gt && high != .lt else low == .lt && high == .gt

/-- The decimal of the form `digits * 10 ^ power` that rounds to a number and is nearest to it. -/
def nearestOnGrid? (significand : Nat) (exponent power : Int) : Option Nat :=
  let numerator := significand * Nat.pow 2 exponent.toNat * Nat.pow 10 (-power).toNat
  let denominator := Nat.pow 2 (-exponent).toNat * Nat.pow 10 power.toNat
  let floor := numerator / denominator
  let nearest := divideToEven numerator denominator
  let other := if nearest = floor then floor + 1 else floor
  [nearest, other].find? (roundsTo significand exponent · power)

/-- The least power of ten above a positive number, as an exponent. -/
def magnitude (significand : Nat) (exponent : Int) : Int :=
  let guess : Int :=
    (digitCount (significand * Nat.pow 2 exponent.toNat) : Int) - (digitCount (Nat.pow 2 (-exponent).toNat) : Int)
  if compareScaled significand exponent 1 guess == .lt then guess else guess + 1

/-- Tries grids of the next `count` digits, the coarsest first. -/
def searchGrids (significand : Nat) (exponent power : Int) : Nat → Option (Nat × Int)
  | 0 => none
  | count + 1 =>
    match nearestOnGrid? significand exponent power with
    | some digits => some (digits, power)
    | none => searchGrids significand exponent (power - 1) count

/-- The fewest digits that read back as a positive number, with the power of ten of the last one. -/
def shortest (significand : Nat) (exponent : Int) : Nat × Int :=
  (searchGrids significand exponent (magnitude significand exponent - 1) 17).getD (significand, exponent)

/-- Digits of a decimal without trailing zeros, and the place of the point counted from the first digit. -/
def digitsAndPoint (digits : Nat) (power : Int) : List Char × Int :=
  let chars := Nat.toDigits 10 digits
  ((chars.reverse.dropWhile (· == '0')).reverse, chars.length + power)

/-- Digits written positionally, with a fractional part of at least one digit. -/
def positional (digits : List Char) (point : Int) : List Char :=
  if point ≤ 0 then '0' :: '.' :: List.replicate (-point).toNat '0' ++ digits
  else if digits.length ≤ point.toNat then
    digits ++ List.replicate (point.toNat - digits.length) '0' ++ ['.', '0']
  else digits.take point.toNat ++ '.' :: digits.drop point.toNat

/-- Digits written with an exponent of ten. -/
def scientific (digits : List Char) (point : Int) : List Char :=
  let exponent := point - 1
  let exponentDigits := Nat.toDigits 10 exponent.natAbs
  let fraction := digits.drop 1
  digits.take 1 ++ (if fraction.isEmpty then [] else '.' :: fraction) ++ ['e', if exponent < 0 then '-' else '+']
    ++ (if exponentDigits.length < 2 then '0' :: exponentDigits else exponentDigits)

/-- The text of a number. -/
def Binary64.text : Binary64 → String
  | .nan => "nan"
  | .infinite negative => if negative then "-inf" else "inf"
  | .finite negative significand exponent =>
    let sign := if negative then "-" else ""
    if significand = 0 then sign ++ "0.0"
    else
      let (digits, power) := shortest significand exponent
      let (chars, point) := digitsAndPoint digits power
      sign ++ String.ofList (if -4 < point && point ≤ 16 then positional chars point else scientific chars point)

end TypedId.Decimal
