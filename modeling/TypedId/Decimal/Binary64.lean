/-!
# Binary floating-point numbers of 64 bits

A finite number is a significand below 2 ^ 53 times a power of two that is at least 2 ^ (-1074). `ofDecimal` gives the
number nearest to a decimal one; of two that are equally near it takes the one with the even significand.
-/

set_option autoImplicit false

namespace TypedId.Decimal

/-- A number of 64-bit floating point. -/
inductive Binary64 where
  /-- The value `significand * 2 ^ exponent`, or its negative. -/
  | finite (negative : Bool) (significand : Nat) (exponent : Int)
  | infinite (negative : Bool)
  | nan
  deriving DecidableEq, Repr

/-- Whether a number counts as false: zero of either sign. -/
def Binary64.isZero : Binary64 → Bool
  | .finite _ 0 _ => true
  | _ => false

/-- The least exponent of a finite number. -/
def leastExponent : Int := -1074

/-- The greatest exponent of a finite number with a full significand. -/
def greatestExponent : Int := 971

/-- The quotient to the nearest whole number; a half goes to the even neighbour. -/
def divideToEven (numerator denominator : Nat) : Nat :=
  let quotient := numerator / denominator
  let twice := 2 * (numerator % denominator)
  if twice < denominator || (twice == denominator && quotient % 2 == 0) then quotient else quotient + 1

/-- A fraction divided by a power of two, as a fraction. -/
def unscale (numerator denominator : Nat) (exponent : Int) : Nat × Nat :=
  (numerator * Nat.pow 2 (-exponent).toNat, denominator * Nat.pow 2 exponent.toNat)

/-- The number nearest to a positive fraction. -/
def Binary64.ofFraction (negative : Bool) (numerator denominator : Nat) : Binary64 :=
  let guess : Int := (Nat.log2 numerator : Int) - (Nat.log2 denominator : Int) - 52
  let fits (exponent : Int) : Bool :=
    let (n, d) := unscale numerator denominator exponent
    Nat.pow 2 52 * d ≤ n
  let exponent := max leastExponent (if fits guess then guess else guess - 1)
  let (n, d) := unscale numerator denominator exponent
  let significand := divideToEven n d
  let (significand, exponent) :=
    if significand = Nat.pow 2 53 then (Nat.pow 2 52, exponent + 1) else (significand, exponent)
  if greatestExponent < exponent then .infinite negative else .finite negative significand exponent

/-- How many decimal digits a number has. -/
def digitCount (n : Nat) : Nat :=
  (Nat.toDigits 10 n).length

/-- The number nearest to `digits * 10 ^ exponent`. -/
def Binary64.ofDecimal (negative : Bool) (digits : Nat) (exponent : Int) : Binary64 :=
  let magnitude := (digitCount digits : Int) + exponent
  if digits = 0 || magnitude < -330 then .finite negative 0 leastExponent
  else if 330 < magnitude then .infinite negative
  else .ofFraction negative (digits * Nat.pow 10 exponent.toNat) (Nat.pow 10 (-exponent).toNat)

end TypedId.Decimal
