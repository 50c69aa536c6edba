/-!
# Binary floating-point numbers

A 64-bit floating-point number is its word: sign, exponent and fraction.  A finite
number has the exact value `significand * 2 ^ exponent`, and a quotient of natural
numbers is rounded to the nearest number, a tie going to the even significand.  No
machine arithmetic is involved, so every rounding is a computation on naturals.
-/

namespace CodeGraph

/-- A 64-bit floating-point number, given by its word. -/
structure Binary64 where
  bits : UInt64
deriving DecidableEq, Repr, Inhabited

namespace Binary64

/-- The word without its sign. -/
def magnitude (number : Binary64) : Nat := number.bits.toNat % (1 <<< 63)

def isNegative (number : Binary64) : Bool := 1 <<< 63 ≤ number.bits.toNat

def infiniteMagnitude : Nat := 2047 <<< 52

/-- Is the number not a number? -/
def isNaN (number : Binary64) : Bool := infiniteMagnitude < number.magnitude

def isInfinite (number : Binary64) : Bool := number.magnitude == infiniteMagnitude

def isZero (number : Binary64) : Bool := number.magnitude == 0

def ofMagnitude (negative : Bool) (magnitude : Nat) : Binary64 :=
  ⟨UInt64.ofNat ((if negative then 1 <<< 63 else 0) + magnitude)⟩

/-- Equality of values: nothing equals what is not a number, and the two zeros are
equal. -/
def sameValue (left right : Binary64) : Bool :=
  !left.isNaN && !right.isNaN &&
    (left.bits == right.bits || (left.isZero && right.isZero))

def significand (number : Binary64) : Nat :=
  if number.magnitude < 1 <<< 52 then number.magnitude
  else number.magnitude % (1 <<< 52) + 1 <<< 52

/-- The exponent of two that goes with `significand`, raised by 1074 so that it is
a natural number. -/
def biasedExponent (number : Binary64) : Nat :=
  (number.magnitude >>> 52) - 1

/-- `numerator / denominator` rounded to the nearest natural number, a tie going to
the even one. -/
def roundQuotient (numerator denominator : Nat) : Nat :=
  let quotient := numerator / denominator
  let twice := 2 * (numerator % denominator)
  if denominator < twice || (twice == denominator && quotient % 2 == 1) then
    quotient + 1
  else quotient

/-- The exponent, raised by 1074, of the number nearest to a quotient: the one that
gives a significand of 53 bits, or zero if that would be negative. -/
def quotientExponent (numerator denominator : Nat) : Nat :=
  -- `2 ^ 1074 * numerator / denominator` counts the quotient in least units
  (Nat.log2 (numerator <<< 1074 / denominator)) - 52

/-- The magnitude of the number nearest to `numerator / denominator`. -/
def nearestMagnitude (numerator denominator : Nat) : Nat :=
  if numerator = 0 then 0
  else
    let exponent := quotientExponent numerator denominator
    let rounded :=
      roundQuotient (numerator <<< 1074) (denominator <<< exponent)
    min infiniteMagnitude (exponent <<< 52 + rounded)

/-- The number nearest to `mantissa * 10 ^ exponent`. -/
def ofDecimal (negative : Bool) (mantissa : Nat) (exponent : Int) : Binary64 :=
  ofMagnitude negative <|
    if 0 ≤ exponent then nearestMagnitude (mantissa * Nat.pow 10 exponent.toNat) 1
    else nearestMagnitude mantissa (Nat.pow 10 (-exponent).toNat)

/-- The number nearest to a natural number. -/
def ofNat (number : Nat) : Binary64 := ofDecimal false number 0

end Binary64

end CodeGraph
