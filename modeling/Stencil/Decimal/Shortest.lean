import Stencil.Decimal.Double

/-! The fewest decimal digits that read back as the same double. -/

namespace Stencil

/-- A decimal number: its digits as one whole number, times a power of ten. -/
structure Decimal where
  digits : Nat
  power : Int
  deriving DecidableEq

/-- The power of ten just above a fraction below one, searched from the decimal point on. -/
def leadingPlace (numerator denominator : Nat) : Int :=
  if denominator ≤ numerator then (Nat.toDigits 10 (numerator / denominator)).length
  else match (List.range 400).find? fun place => denominator ≤ numerator * tenTo place with
    | some place => 1 - (place : Int)
    | none => -400

/-- The fractions that round to a double, with both ends over one denominator. -/
structure RoundingInterval where
  lower : Nat
  exact : Nat
  upper : Nat
  denominator : Nat
  closed : Bool

/-- The fractions that round to a positive double. -/
def RoundingInterval.of (mantissa : Nat) (exponent : Int) : RoundingInterval :=
  let unit := twoTo exponent.toNat
  -- The neighbour below a power of two lies half as far away.
  let below := if mantissa = twoTo 52 && -1074 < exponent then 1 else 2
  { lower := (4 * mantissa - below) * unit
    exact := 4 * mantissa * unit
    upper := (4 * mantissa + 2) * unit
    denominator := 4 * twoTo (-exponent).toNat
    closed := mantissa % 2 = 0 }

/-- The interval in units of a power of ten. -/
def RoundingInterval.inUnits (interval : RoundingInterval) (power : Int) : RoundingInterval :=
  -- A negative power scales the bounds, a positive one their denominator.
  let up := tenTo (-power).toNat
  { interval with
    lower := interval.lower * up
    exact := interval.exact * up
    upper := interval.upper * up
    denominator := interval.denominator * tenTo power.toNat }

/-- Whether a whole number of units lies in the interval. -/
def RoundingInterval.holds (interval : RoundingInterval) (units : Nat) : Bool :=
  let value := units * interval.denominator
  if interval.closed then interval.lower ≤ value && value ≤ interval.upper
  else interval.lower < value && value < interval.upper

/-- The whole number of units in the interval nearest to the exact value, the even one of two. -/
def RoundingInterval.nearest? (interval : RoundingInterval) : Option Nat :=
  let below := interval.exact / interval.denominator
  let rest := 2 * (interval.exact % interval.denominator)
  match interval.holds below, interval.holds (below + 1) with
  | false, false => none
  | true, false => some below
  | false, true => some (below + 1)
  -- Both neighbours are in the interval: the closer one is taken, and the even one of two that are
  -- as close.
  | true, true =>
    if rest < interval.denominator || (rest = interval.denominator && below % 2 = 0) then some below
    else some (below + 1)

/-- The decimal without zeros at the end of its digits. -/
def Decimal.trimmed (decimal : Decimal) : Nat → Decimal
  | 0 => decimal
  | bound + 1 =>
    if decimal.digits ≠ 0 && decimal.digits % 10 = 0 then
      Decimal.trimmed ⟨decimal.digits / 10, decimal.power + 1⟩ bound
    else decimal

/-- The shortest decimal that rounds to a double, and the nearest to it among those. -/
def shortestDecimal (mantissa : Nat) (exponent : Int) : Decimal :=
  let interval := RoundingInterval.of mantissa exponent
  let place := leadingPlace interval.exact interval.denominator
  -- Seventeen digits always suffice.
  let found := (List.range 17).findSome? fun count =>
    let power := place - ((count : Nat) + 1 : Int)
    (interval.inUnits power).nearest?.map fun digits => Decimal.mk digits power
  (found.getD ⟨0, 0⟩).trimmed 18

end Stencil
