import Stencil.Decimal.Layout
import Stencil.Text.Characters

/-! Numbers read from text, in the digits of any script. -/

namespace Stencil

/-- The four information separators, which are blanks of a text but not of a number. -/
def informationSeparators : List (Nat × Nat) :=
  [(0x1c, 0x1f)]

/-- Whether a character may stand around a number without being part of it. -/
def surroundsNumber (char : Char) : Bool :=
  isBlank char && !isWithin informationSeparators char

/-- The written number without what may stand around it. -/
def bareNumber (text : String) : List Char :=
  trimEnds surroundsNumber text.toList

/-- The text without the underscores that stand between digits, unless one stands elsewhere. -/
def joinDigits? (previous : Option Char) : List Char → Option (List Char)
  | [] => some []
  -- next :: A separator stands between two digits, never twice and never at an end.
  | '_' :: next :: rest =>
    if previous.any isDecimal && isDecimal next then (joinDigits? (some next) rest).map (next :: ·)
    else none
  | ['_'] => none
  | char :: rest => (joinDigits? (some char) rest).map (char :: ·)

/-- The number that a row of digits stands for. -/
def digitsValue (digits : List Char) : Nat :=
  digits.foldl (fun number char => 10 * number + (digitValue? char).getD 0) 0

/-- A sign in front, with what follows it; a missing sign is positive. -/
def splitSign : List Char → Bool × List Char
  | '-' :: rest => (true, rest)
  | '+' :: rest => (false, rest)
  | rest => (false, rest)

/-- The sign and the digits of an integer, which may have blanks around it. -/
def integerDigits? (text : String) : Option (Bool × List Char) := do
  let (negative, digits) := splitSign (← joinDigits? none (bareNumber text))
  if digits.isEmpty || !digits.all isDecimal then none else some (negative, digits)

/-- An integer written in decimal digits, unless it has too many of them. -/
def readInteger? (text : String) : Option Int := do
  let (negative, digits) ← integerDigits? text
  -- Zeros in front count as digits as well.
  if digitLimit < digits.length then none
  else if negative then some (-(digitsValue digits : Int))
  else some (digitsValue digits : Int)

/-- The power of ten written after the mark of an exponent; no mark is the power zero. -/
def readExponent? : List Char → Option Int
  -- Without a mark the power is zero.
  | [] => some 0
  | mark :: rest => do
    let (negative, digits) := splitSign rest
    if (mark ≠ 'e' && mark ≠ 'E') || digits.isEmpty || !digits.all isDecimal then none
    else if negative then some (-(digitsValue digits : Int))
    else some (digitsValue digits : Int)

/-- The double nearest to digits times a power of ten. -/
def nearestToDecimal (digits : Nat) (power : Int) : Float :=
  let place := power + (Nat.toDigits 10 digits).length
  -- Powers far outside the range of doubles are settled without being computed.
  if digits = 0 || place < -400 then 0
  else if 400 < place then nearestDouble (tenTo 400) 1
  else nearestDouble (digits * tenTo power.toNat) (tenTo (-power).toNat)

/-- A double without sign: digits with an optional point and exponent, or a named value. -/
def readMagnitude? (text : List Char) : Option Float :=
  let word := String.ofList (text.map Char.toLower)
  -- This power of ten is above all finite doubles, so it is rounded to infinity.
  if word = "inf" || word = "infinity" then some (nearestDouble (tenTo 400) 1)
  else if word = "nan" then some (0 / 0)
  else
    let whole := text.takeWhile isDecimal
    let afterWhole := text.dropWhile isDecimal
    let (fraction, tail) := match afterWhole with
      | '.' :: rest => (rest.takeWhile isDecimal, rest.dropWhile isDecimal)
      | rest => ([], rest)
    -- A point needs a digit on one of its sides.
    if whole.isEmpty && fraction.isEmpty then none
    else (readExponent? tail).map fun power =>
      nearestToDecimal (digitsValue (whole ++ fraction)) (power - fraction.length)

/-- A double written in decimal, with an optional sign and blanks around it. -/
def readDouble? (text : String) : Option Float := do
  let (negative, unsigned) := splitSign (← joinDigits? none (bareNumber text))
  let size ← readMagnitude? unsigned
  if negative then some (-size) else some size

end Stencil
