/-! Double precision numbers as exact values, and the double nearest to a fraction. -/

namespace Stencil

/-- The size of a double: a whole multiple of a power of two, infinite, or no number at all. -/
inductive Magnitude
  | finite (mantissa : Nat) (exponent : Int)
  | infinite
  | notANumber
  deriving DecidableEq

/-- A power of two. -/
def twoTo (exponent : Nat) : Nat :=
  Nat.pow 2 exponent

/-- A power of ten. -/
def tenTo (exponent : Nat) : Nat :=
  Nat.pow 10 exponent

/-- Whether the sign of a double is set. -/
def isNegative (number : Float) : Bool :=
  number.toBits.toNat / twoTo 63 == 1

/-- The size of a double, read from its bits. -/
def magnitude (number : Float) : Magnitude :=
  let biased : Nat := number.toBits.toNat / twoTo 52 % 2048
  let fraction : Nat := number.toBits.toNat % twoTo 52
  if biased = 2047 then (if fraction = 0 then .infinite else .notANumber)
  else if biased = 0 then .finite fraction (-1074)
  else .finite (fraction + twoTo 52) ((biased : Int) - 1075)

/-- A fraction rounded to a whole number, a half going to the even neighbour. -/
def roundToEven (numerator denominator : Nat) : Nat :=
  let whole := numerator / denominator
  let rest := 2 * (numerator % denominator)
  if denominator < rest || (rest = denominator && whole % 2 = 1) then whole + 1 else whole

/-- A fraction divided by a power of two, as a fraction. -/
def scaleDown (numerator denominator : Nat) (exponent : Int) : Nat × Nat :=
  if 0 ≤ exponent then (numerator, denominator * twoTo exponent.toNat)
  else (numerator * twoTo (-exponent).toNat, denominator)

/-- The double nearest to a fraction, a tie going to the even mantissa. -/
def nearestDouble (numerator denominator : Nat) : Float :=
  if numerator = 0 then 0
  else
    -- The estimate is right or one too small, and then the quotient has a bit too many.
    let estimate : Int := max (-1074) ((numerator.log2 : Int) - denominator.log2 - 53)
    let scaled := scaleDown numerator denominator estimate
    let exponent := if scaled.1 / scaled.2 < twoTo 53 then estimate else estimate + 1
    let exact := scaleDown numerator denominator exponent
    -- A mantissa that rounds up to the next power of two carries into the exponent.
    let bits := (exponent + 1074).toNat * twoTo 52 + roundToEven exact.1 exact.2
    Float.ofBits (UInt64.ofNat (min bits (2047 * twoTo 52)))

end Stencil
