import CodeGraph.Number.Binary64

/-!
# Shortest decimals

The decimal that stands for a floating-point number has the fewest digits of all
decimals that round to the number, and of those it is the nearest; a tie goes up.
Decimals with the last digit at `10 ^ place` form a grid, and of each grid only the
two neighbours of the exact value can be that decimal.
-/

namespace CodeGraph

/-- The decimal `digits * 10 ^ place`. -/
structure ShortDecimal where
  digits : Nat
  place : Int
deriving DecidableEq, Repr

namespace Binary64

/-- The positive number as the exact quotient `value / unit`, with the two ends of
the interval of quotients that round to it. -/
structure RoundingInterval where
  unit : Nat
  low : Nat
  value : Nat
  high : Nat
  inclusive : Bool

/-- The quotients that round to a positive finite number.  Below a power of two the
interval is half as wide, and its ends belong to it if the significand is even. -/
def roundingInterval (number : Binary64) : RoundingInterval :=
  let significand := number.significand
  let scale := 1 <<< number.biasedExponent
  let narrow := significand == 1 <<< 52 && 0 < number.biasedExponent
  { unit := 4 <<< 1074
    low := (4 * significand - (if narrow then 1 else 2)) * scale
    value := 4 * significand * scale
    high := (4 * significand + 2) * scale
    inclusive := significand % 2 == 0 }

namespace RoundingInterval

/-- Does the quotient `numerator / (unit * scale)` round to the number? -/
def contains (interval : RoundingInterval) (numerator scale : Nat) : Bool :=
  if interval.inclusive then
    interval.low * scale ≤ numerator && numerator ≤ interval.high * scale
  else interval.low * scale < numerator && numerator < interval.high * scale

/-- The decimal on the grid of `place` that rounds to the number and is nearest to
it, if there is one. -/
def onGrid? (interval : RoundingInterval) (place : Int) : Option ShortDecimal :=
  -- in units of `unit * scale`, the grid has width `step` and the value is `value`
  let scale := Nat.pow 10 (-place).toNat
  let step := interval.unit * Nat.pow 10 place.toNat
  let value := interval.value * scale
  let below := value / step
  let lowFits := below ≠ 0 && interval.contains (below * step) scale
  let highFits := interval.contains ((below + 1) * step) scale
  let higher := step ≤ 2 * (value % step)
  if highFits && (higher || !lowFits) then some ⟨below + 1, place⟩
  else if lowFits then some ⟨below, place⟩
  else none

/-- The first hit on the grids of `place` and the next finer ones. -/
def search (interval : RoundingInterval) : Nat → Int → Option ShortDecimal
  | 0, _ => none
  | grids + 1, place =>
      match interval.onGrid? place with
      | some decimal => some decimal
      | none => search interval grids (place - 1)

end RoundingInterval

def decimalExponentBound (number : Binary64) : Int :=
  ((Nat.log2 number.significand + number.biasedExponent + 1 : Nat) - 1074 : Int)
    * 30103 / 100000 + 1

/-- The shortest decimal of a positive finite number. -/
def shortest (number : Binary64) : ShortDecimal :=
  (number.roundingInterval.search 25 number.decimalExponentBound).getD ⟨0, 0⟩

private def zeros (count : Nat) : List Char := List.replicate count '0'

/-- A decimal in positional notation; `tail` follows a decimal without fraction. -/
def positional (decimal : ShortDecimal) (tail : String) : String :=
  let digits := (toString decimal.digits).toList
  if 0 ≤ decimal.place then
    String.ofList (digits ++ zeros decimal.place.toNat) ++ tail
  else
    let fraction := (-decimal.place).toNat
    let padded := zeros (fraction + 1 - digits.length) ++ digits
    let whole := padded.length - fraction
    String.ofList (padded.take whole ++ '.' :: padded.drop whole)

/-- A decimal in scientific notation: one digit, the fraction if there is one, and
the exponent. -/
def scientific (decimal : ShortDecimal) : String :=
  let digits := (toString decimal.digits).toList
  let exponent := decimal.place + (digits.length - 1 : Nat)
  let mantissa :=
    match digits with
    | first :: second :: rest => first :: '.' :: second :: rest
    | digits => digits
  String.ofList mantissa ++ "e" ++ toString exponent

private def signed (number : Binary64) (text : String) : String :=
  if number.isNegative then "-" ++ text else text

/-- The number as text, in positional notation throughout. -/
def render (number : Binary64) : String :=
  if number.isNaN then "NaN"
  else
    number.signed <|
      if number.isInfinite then "inf"
      else if number.isZero then "0"
      else positional number.shortest ""

/-- The number as text that tells it from an integer: a whole number keeps one place
after the point, and numbers from `10 ^ 16` or below `10 ^ -4` are scientific. -/
def renderMarked (number : Binary64) : String :=
  if number.isNaN then "NaN"
  else
    number.signed <|
      if number.isInfinite then "inf"
      else if number.isZero then "0.0"
      else
        let decimal := number.shortest
        let leading := decimal.place + ((toString decimal.digits).length - 1 : Nat)
        if 16 ≤ leading || leading < -4 then scientific decimal
        else positional decimal ".0"

end Binary64

end CodeGraph
