import Mathlib.Data.List.TakeWhile
import Mathlib.Data.Nat.Digits.Defs
import Stencil.Decimal.Read

/-! Numbers that are written in decimal digits are read, and integers with no more digits than the
limit allows are read back. -/

namespace Stencil

/-- An integer has no more digits than are read and written. -/
def IsShort (number : Int) : Prop :=
  (Nat.toDigits 10 number.natAbs).length ≤ digitLimit

/-- A digit lies between zero and nine. -/
theorem toNat_digit {char : Char} (digit : char.isDigit = true) :
    48 ≤ char.toNat ∧ char.toNat ≤ 57 := by
  -- The class of digits is given by just these two points.
  simp only [Char.isDigit, Bool.and_eq_true, decide_eq_true_eq] at digit
  exact digit

/-- A character between zero and nine has its distance from zero as its value. -/
theorem digitValue_digit {char : Char} (digit : char.isDigit = true) :
    digitValue? char = some (char.toNat - 48) := by
  -- The first of all zeros is the one that the digit is counted from.
  have range : 48 ≤ char.toNat ∧ char.toNat < 58 := by
    have bounds := toNat_digit digit
    omega
  simp [digitValue?, digitZeros, range]

/-- A character between zero and nine is a decimal digit. -/
theorem isDecimal_digit {char : Char} (digit : char.isDigit = true) : isDecimal char = true := by
  -- A digit of the alphabet has a value.
  rw [isDecimal, digitValue_digit digit]
  rfl

/-- No visible character of the first script is blank. -/
theorem isBlank_visible {char : Char} (low : 32 < char.toNat) (high : char.toNat < 127) :
    isBlank char = false := by
  -- The ranges of blanks lie below or above these characters.
  simp only [isBlank, isWithin, blankRanges]
  simp
  omega

/-- Nothing is stripped from a text that has nothing to strip. -/
theorem trimEnds_self {strips : Char → Bool} {text : List Char}
    (keeps : ∀ char ∈ text, strips char = false) : trimEnds strips text = text := by
  -- Stripping stops at once at a character that is kept.
  have untouched {other : List Char} (keeps : ∀ char ∈ other, strips char = false) :
      other.dropWhile strips = other := by
    cases other with
    | nil => rfl
    | cons char rest => simp [List.dropWhile, keeps char (by simp)]
  -- Both ends are stripped from the front, the far one with the text turned round.
  have turned : ∀ char ∈ text.reverse, strips char = false := by
    intro char member
    exact keeps char (List.mem_reverse.1 member)
  rw [trimEnds, untouched keeps, untouched turned, List.reverse_reverse]

/-- Digits without underscores are joined as they are. -/
theorem joinDigits_self {digits : List Char} (plain : '_' ∉ digits) (previous : Option Char) :
    joinDigits? previous digits = some digits := by
  -- The character before has to stay free, since it changes at every step.
  induction digits generalizing previous with
  | nil => rfl
  | cons char rest ih =>
    simp only [List.mem_cons, not_or] at plain
    have other : char ≠ '_' := fun same => plain.1 same.symm
    -- Only a text that starts with an underscore is read in another way.
    rw [joinDigits?.eq_4 _ _ _ (fun _ _ same => absurd same other) (fun same => absurd same other),
      ih plain.2]
    rfl

/-- A decimal digit is none of the characters that are not. -/
theorem ne_of_isDecimal {char other : Char} (digit : isDecimal char = true)
    (apart : isDecimal other = false) : char ≠ other := by
  -- One of them is a digit and the other is not.
  rintro rfl
  exact absurd digit (by simp [apart])

/-- A decimal digit lies outside every range that no script has its digits in. -/
theorem toNat_decimal {char : Char} (digit : isDecimal char = true) {low high : Nat}
    (apart : ∀ start ∈ digitZeros, start + 9 < low ∨ high < start) :
    char.toNat < low ∨ high < char.toNat := by
  -- A digit is one of ten that start at the zero of its script.
  simp only [isDecimal, digitValue?, Option.isSome_map] at digit
  obtain ⟨start, member, range⟩ := List.find?_isSome.1 digit
  simp only [Bool.and_eq_true, decide_eq_true_eq] at range
  have outside := apart start member
  omega

/-- No decimal digit of any script is blank. -/
theorem isBlank_decimal {char : Char} (digit : isDecimal char = true) : isBlank char = false := by
  -- The digits of each script lie below or above every range of blanks.
  have apart : ∀ range ∈ blankRanges, ∀ start ∈ digitZeros,
      start + 9 < range.1 ∨ range.2 < start := by decide
  refine List.any_eq_false.2 fun range among => ?_
  have outside := toNat_decimal digit (apart range among)
  simp only [Bool.and_eq_true, decide_eq_true_eq]
  omega

/-- No decimal digit of any script has a lower form. -/
theorem toLower_decimal {char : Char} (digit : isDecimal char = true) : char.toLower = char := by
  -- Only capitals of the first script are lowered, and none of them is a digit.
  have outside : char.toNat < 65 ∨ 90 < char.toNat := toNat_decimal digit (by decide)
  refine dif_neg fun upper => ?_
  have bounds : 65 ≤ char.toNat ∧ char.toNat ≤ 90 := upper
  omega

/-- Nothing stands around a text of decimal digits and other characters that are not blank. -/
theorem bareNumber_self {text : List Char} (visible : ∀ char ∈ text, isBlank char = false) :
    bareNumber (String.ofList text) = text := by
  -- All that is stripped around a number is blank.
  rw [bareNumber, String.toList_ofList]
  exact trimEnds_self fun char member => by simp [surroundsNumber, visible char member]

/-- A text that starts with a digit has no sign. -/
theorem splitSign_decimal {char : Char} (digit : isDecimal char = true) (rest : List Char) :
    -- Neither sign is a digit.
    splitSign (char :: rest) = (false, char :: rest) := by
  have minus : char ≠ '-' := ne_of_isDecimal digit rfl
  have plus : char ≠ '+' := ne_of_isDecimal digit rfl
  simp [splitSign, minus, plus]

/-- Decimal digits of any scripts are the digits of an integer without a sign. -/
theorem integerDigits_decimal {digits : List Char} (full : digits ≠ [])
    (each : ∀ char ∈ digits, isDecimal char = true) :
    integerDigits? (String.ofList digits) = some (false, digits) := by
  -- There is nothing around the digits to be stripped, and nothing between them to be joined.
  have bare := bareNumber_self fun char member => isBlank_decimal (each char member)
  have plain : '_' ∉ digits := fun member => ne_of_isDecimal (each _ member) rfl rfl
  -- The first of them is no sign.
  have unsigned : splitSign digits = (false, digits) := by
    obtain ⟨first, rest, rfl⟩ := List.exists_cons_of_ne_nil full
    exact splitSign_decimal (each first (by simp)) rest
  simpa [integerDigits?, bare, joinDigits_self plain, unsigned, full] using each

/-- Decimal digits of any scripts are read as an integer, unless there are too many of them. -/
theorem readInteger_decimal {digits : List Char} (full : digits ≠ [])
    (each : ∀ char ∈ digits, isDecimal char = true) :
    readInteger? (String.ofList digits) =
      if digits.length ≤ digitLimit then some (digitsValue digits : Int) else none := by
  -- The count is all that is left to be looked at, as every character is a digit.
  simp only [readInteger?, integerDigits_decimal full each]
  by_cases short : digits.length ≤ digitLimit
  · simp [short, Nat.not_lt.2 short]
  · simp [short, Nat.lt_of_not_le short]

/-- A digit is worth less than ten. -/
theorem digitValue_lt {char : Char} {value : Nat} (found : digitValue? char = some value) :
    value < 10 := by
  -- The digit is one of the ten that follow the zero of its script.
  obtain ⟨start, among, rfl⟩ := Option.map_eq_some_iff.1 found
  have range := List.find?_some among
  simp only [Bool.and_eq_true, decide_eq_true_eq] at range
  omega

/-- Digits are worth less than the power of ten with a zero for each of them. -/
theorem digitsValue_lt (digits : List Char) : digitsValue digits < tenTo digits.length := by
  -- The induction is on the digits, from any value that has been reached before them.
  have general (start : Nat) :
      digits.foldl (fun number char => 10 * number + (digitValue? char).getD 0) start <
        (start + 1) * tenTo digits.length := by
    induction digits generalizing start with
    | nil => exact Nat.lt_of_lt_of_eq (Nat.lt_succ_self start) (Nat.mul_one _).symm
    | cons char rest ih =>
      have small : (digitValue? char).getD 0 < 10 := by
        cases found : digitValue? char with
        | none => simp
        | some value => simpa using digitValue_lt found
      calc rest.foldl (fun number char => 10 * number + (digitValue? char).getD 0)
            (10 * start + (digitValue? char).getD 0)
          < (10 * start + (digitValue? char).getD 0 + 1) * tenTo rest.length := ih _
        _ ≤ ((start + 1) * 10) * tenTo rest.length := Nat.mul_le_mul_right _ (by omega)
        _ = (start + 1) * (tenTo rest.length * 10) := by rw [Nat.mul_assoc, Nat.mul_comm 10]
  simpa [digitsValue] using general 0

/-- A power of ten is at most another one that has as many zeros. -/
theorem tenTo_le {few many : Nat} (fewer : few ≤ many) : tenTo few ≤ tenTo many :=
  -- Powers of ten grow.
  Nat.pow_le_pow_right (by decide) fewer

/-- A number below a power of ten has no more digits than that has zeros. -/
theorem toDigits_length_le {number count : Nat} (positive : 0 < count)
    (below : number < tenTo count) : (Nat.toDigits 10 number).length ≤ count :=
  -- A number below a power of ten has at most that many digits.
  Nat.toDigits_length 10 number count positive below

/-- An integer that has been read has no more digits than the limit allows. -/
theorem isShort_readInteger {text : String} {number : Int}
    (read : readInteger? text = some number) : IsShort number := by
  obtain ⟨⟨negative, digits⟩, found, value⟩ := Option.bind_eq_some_iff.1 read
  have full : digits ≠ [] := by
    -- A text without any digits is no integer.
    obtain ⟨joined, _, split⟩ := Option.bind_eq_some_iff.1 found
    rintro rfl
    simp at split
    exact split.1.1 (by rw [split.2])
  by_cases short : digitLimit < digits.length
  · simp [short] at value
  · have size : number.natAbs = digitsValue digits := by
      -- The sign is all that number and digits differ in.
      simp only [short, if_false] at value
      split at value <;> cases value <;> simp
    rw [IsShort, size]
    exact (toDigits_length_le (List.length_pos_iff.2 full) (digitsValue_lt digits)).trans
      (Nat.le_of_not_lt short)

/-- Decimal digits of any scripts with a point between them are no word, but a size. -/
theorem readMagnitude_decimal {whole part : List Char} (full : whole ≠ [])
    (each : ∀ char ∈ whole, isDecimal char = true) (behind : ∀ char ∈ part, isDecimal char = true) :
    (readMagnitude? (whole ++ '.' :: part)).isSome := by
  -- No word for a number that is not finite starts with a digit.
  have unnamed {word : String} {letter : Char} {others : List Char}
      (spelled : word.toList = letter :: others) (apart : isDecimal letter = false) :
      String.ofList ((whole ++ '.' :: part).map Char.toLower) ≠ word := by
    rintro rfl
    obtain ⟨first, rest, rfl⟩ := List.exists_cons_of_ne_nil full
    have digit := each first (by simp)
    rw [String.toList_ofList] at spelled
    exact ne_of_isDecimal digit apart ((toLower_decimal digit).symm.trans (List.cons.inj spelled).1)
  -- The point ends the first digits, and nothing stands behind the others.
  have start : (whole ++ '.' :: part).takeWhile isDecimal = whole := by
    rw [List.takeWhile_append_of_pos each, List.takeWhile_cons_of_neg (by decide), List.append_nil]
  have point : (whole ++ '.' :: part).dropWhile isDecimal = '.' :: part := by
    rw [List.dropWhile_append_of_pos each, List.dropWhile_cons_of_neg (by decide)]
  have all : part.dropWhile isDecimal = [] := List.dropWhile_eq_nil_iff.2 behind
  have infinite := unnamed (rfl : "inf".toList = _) rfl
  have infinity := unnamed (rfl : "infinity".toList = _) rfl
  have undefined := unnamed (rfl : "nan".toList = _) rfl
  simp only [readMagnitude?, infinite, infinity, undefined, start, point, all]
  simp [full, readExponent?]

/-- Decimal digits of any scripts with a point between them are read as a double. -/
theorem readDouble_decimal {whole part : List Char} (full : whole ≠ [])
    (each : ∀ char ∈ whole, isDecimal char = true) (behind : ∀ char ∈ part, isDecimal char = true) :
    (readDouble? (String.ofList (whole ++ '.' :: part))).isSome := by
  -- Whatever holds of the digits and of the point holds of each character.
  have all {holds : Char → Prop} (digits : ∀ char, isDecimal char = true → holds char)
      (point : holds '.') : ∀ char ∈ whole ++ '.' :: part, holds char := by
    intro char member
    rcases List.mem_append.1 member with member | member
    · exact digits char (each char member)
    · rcases List.mem_cons.1 member with rfl | member
      · exact point
      · exact digits char (behind char member)
  -- So there is nothing to strip, nothing to join and no sign, and what is left is a size.
  have bare := bareNumber_self (all (fun _ => isBlank_decimal) rfl)
  have plain : '_' ∉ whole ++ '.' :: part := fun member =>
    all (fun _ digit => ne_of_isDecimal digit (rfl : isDecimal '_' = false)) (by decide) _ member
      rfl
  have unsigned : splitSign (whole ++ '.' :: part) = (false, whole ++ '.' :: part) := by
    obtain ⟨first, rest, rfl⟩ := List.exists_cons_of_ne_nil full
    exact splitSign_decimal (each first (by simp)) _
  obtain ⟨size, read⟩ := Option.isSome_iff_exists.1 (readMagnitude_decimal full each behind)
  rw [readDouble?, bare, joinDigits_self plain]
  simp [unsigned, read]

/-- Digits are worth what they are worth in the base ten. -/
theorem digitsValue_digits {digits : List Char} (each : ∀ char ∈ digits, char.isDigit = true) :
    digitsValue digits = Nat.ofDigitChars 10 digits 0 := by
  -- The induction is on the digits, from any value that has been reached before them.
  have general (start : Nat) :
      digits.foldl (fun number char => 10 * number + (digitValue? char).getD 0) start =
        digits.foldl (fun number char => 10 * number + (char.toNat - 48)) start := by
    induction digits generalizing start with
    | nil => rfl
    | cons char rest ih =>
      have first := digitValue_digit (each char (by simp))
      simp only [List.foldl_cons, first, Option.getD_some]
      exact ih (fun other member => each other (by simp [member])) _
  exact general 0

/-- The digits of a number are worth the number. -/
theorem digitsValue_toDigits (number : Nat) : digitsValue (Nat.toDigits 10 number) = number := by
  -- The digits of a number are decimal, and counting them up gives the number back.
  have each : ∀ char ∈ Nat.toDigits 10 number, char.isDigit = true := fun char member =>
    Nat.isDigit_of_mem_toDigits (by omega) (by omega) member
  rw [digitsValue_digits each, Nat.ofDigitChars_toDigits (by omega) (by omega)]

/-- An integer is short just if it lies within a power of ten. -/
theorem isShort_iff {number : Int} : IsShort number ↔ number.natAbs < tenTo digitLimit := by
  constructor
  · intro short
    -- The number is worth what its digits are, and there are no more of these than the limit.
    calc number.natAbs = digitsValue (Nat.toDigits 10 number.natAbs) :=
          (digitsValue_toDigits _).symm
      _ < tenTo (Nat.toDigits 10 number.natAbs).length := digitsValue_lt _
      _ ≤ tenTo digitLimit := tenTo_le short
  · exact toDigits_length_le (by decide)

/-- The power of ten itself has one digit too many. -/
theorem not_isShort_tenTo : ¬ IsShort (tenTo digitLimit : Nat) := by
  -- The power itself has one digit more than the limit.
  rw [isShort_iff, Int.natAbs_natCast]
  exact Nat.lt_irrefl _

/-- The decimal digits of a number are read as the number, unless there are too many of them. -/
theorem readInteger_toDigits (number : Nat) :
    readInteger? (String.ofList (Nat.toDigits 10 number)) =
      if (Nat.toDigits 10 number).length ≤ digitLimit then some (number : Int) else none := by
  -- The digits are plain ones, and their value is the number that they were made of.
  have each : ∀ char ∈ Nat.toDigits 10 number, char.isDigit = true := fun char member =>
    Nat.isDigit_of_mem_toDigits (by omega) (by omega) member
  rw [readInteger_decimal Nat.toDigits_ne_nil fun char member => isDecimal_digit (each char member),
    digitsValue_toDigits]

/-- An integer that is not negative is written in its digits. -/
theorem writeInteger_digits {number : Int} (positive : 0 ≤ number) :
    writeInteger number = String.ofList (Nat.toDigits 10 number.toNat) := by
  -- The sign is only written if there is one.
  have same : number.natAbs = number.toNat := by omega
  simp only [writeInteger, if_neg (Int.not_lt.2 positive), same]

/-- An integer that is not negative is read as it is written, if it can be read at all. -/
theorem readInteger_writeInteger {number : Int} (positive : 0 ≤ number)
    (short : IsShort number) : readInteger? (writeInteger number) = some number := by
  -- Without a sign the digits are those of the number itself.
  have same : number.natAbs = number.toNat := by omega
  rw [IsShort, same] at short
  rw [writeInteger_digits positive, readInteger_toDigits, if_pos short,
    Int.toNat_of_nonneg positive]

end Stencil
