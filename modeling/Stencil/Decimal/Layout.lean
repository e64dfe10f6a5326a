import Stencil.Decimal.Shortest

/-! How decimals are laid out as text. -/

namespace Stencil

/-- The decimal digits of an integer, behind a minus sign when it is negative. -/
def writeInteger (number : Int) : String :=
  let digits := Nat.toDigits 10 number.natAbs
  String.ofList (if number < 0 then '-' :: digits else digits)

/-- The most digits of an integer that values and texts are turned into one another with. -/
def digitLimit : Nat := 4300

/-- What is said of an integer with too many digits. -/
def digitLimitText (detail : String) : String :=
  "Exceeds the limit (" ++ writeInteger digitLimit ++ " digits) for integer string conversion" ++
    detail ++ "; use sys.set_int_max_str_digits() to increase the limit"

/-- The text of an integer, unless it has too many digits. -/
def integerText? (number : Int) : Option String :=
  if (Nat.toDigits 10 number.natAbs).length ≤ digitLimit then some (writeInteger number) else none

/-- The choices that fix the text of a double. -/
structure DoubleFormat where
  /-- The least power of ten of the first digit that is written positionally. -/
  leastPositional : Int
  /-- The first power of ten that is written with an exponent. -/
  leastScientific : Int
  /-- The least number of digits in an exponent. -/
  exponentWidth : Nat
  infinity : String
  notANumber : String

/-- Digits with the point after some of them, which may lie outside on either side. -/
def positional (digits : List Char) (place : Int) : List Char :=
  -- (if fraction :: A whole number keeps one zero behind its point.
  -- A place below zero stands behind the point, with zeros up to it.
  if place < 0 then '0' :: '.' :: List.replicate (-place - 1).toNat '0' ++ digits
  else
    let whole := place.toNat + 1
    let fraction := digits.drop whole
    digits.take whole ++ List.replicate (whole - digits.length) '0' ++
      '.' :: (if fraction.isEmpty then ['0'] else fraction)

/-- One digit before the point, then the rest and the power of ten. -/
def scientific (width : Nat) (digits : List Char) (place : Int) : List Char :=
  let exponent := Nat.toDigits 10 place.natAbs
  digits.take 1 ++ (if digits.length ≤ 1 then [] else '.' :: digits.drop 1) ++
    'e' :: (if place < 0 then '-' else '+') ::
    List.replicate (width - exponent.length) '0' ++ exponent

/-- The text of a positive decimal in a format. -/
def DoubleFormat.layDecimal (format : DoubleFormat) (decimal : Decimal) : List Char :=
  let digits := Nat.toDigits 10 decimal.digits
  let place := decimal.power + digits.length - 1
  if format.leastPositional ≤ place && place < format.leastScientific then positional digits place
  else scientific format.exponentWidth digits place

/-- The text of a double in a format. -/
def DoubleFormat.write (format : DoubleFormat) (number : Float) : String :=
  let sign := if isNegative number then "-" else ""
  match magnitude number with
  | .notANumber => format.notANumber
  | .infinite => sign ++ format.infinity
  -- Zero has no digits to be shortest.
  | .finite 0 _ => sign ++ "0.0"
  | .finite mantissa exponent =>
    sign ++ String.ofList (format.layDecimal (shortestDecimal mantissa exponent))

end Stencil
