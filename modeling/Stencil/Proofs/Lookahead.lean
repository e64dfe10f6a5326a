import Stencil.Proofs.PieceGrammar

/-! A piece is cut off by its own characters and by the next two. -/

namespace Stencil

section

variable {rest other : List Char}

/-- Texts that agree on two characters agree on the first one. -/
theorem head?_of_take_two (same : rest.take 2 = other.take 2) : rest.head? = other.head? := by
  -- The first of the two characters is the head.
  have heads := congrArg List.head? same
  simpa [List.head?_take] using heads

/-- A text that agrees on two characters with one that has both has them, too. -/
theorem eq_cons_of_take_two {first second : Char} {more : List Char}
    (same : rest.take 2 = (first :: second :: more).take 2) :
    ∃ behind, rest = first :: second :: behind :=
  -- The first two characters are given, the others are whatever is left.
  ⟨rest.drop 2, by rw [← List.take_append_drop 2 rest, same]; simp⟩

/-- Two texts look alike to what is cut off in front of them: by one character, and by two where the
first is a point. -/
def LooksAlike (rest other : List Char) : Prop :=
  rest.head? = other.head? ∧ (rest.head? = some '.' → rest.take 2 = other.take 2)

/-- Texts that agree on two characters look alike. -/
theorem looksAlike_of_take_two (same : rest.take 2 = other.take 2) : LooksAlike rest other :=
  -- No reading looks further than two characters.
  ⟨head?_of_take_two same, fun _ => same⟩

/-- Texts that agree on two characters still do behind another text. -/
theorem take_two_append (same : rest.take 2 = other.take 2) (front : List Char) :
    (front ++ rest).take 2 = (front ++ other).take 2 := by
  rw [List.take_append, List.take_append]
  congr 1
  -- Fewer characters are asked for, and those agree as well.
  have fewer := congrArg (List.take (2 - front.length)) same
  rwa [List.take_take, List.take_take, Nat.min_eq_left (Nat.sub_le _ _)] at fewer

/-- Whether a tag is closed is decided by two characters. -/
theorem closer_take_two {tag : Tag} {text second : List Char}
    (same : text.take 2 = second.take 2) : tag.closer <+: text ↔ tag.closer <+: second := by
  -- A closer has two characters, so only the first two of the text matter.
  have length : tag.closer.length = 2 := by cases tag <;> rfl
  rw [List.prefix_iff_eq_take, List.prefix_iff_eq_take, length, same]

/-- Characters of one kind are taken again up to the same character. -/
theorem takeWhile_again {accepts : Char → Bool} {text : List Char}
    (same : (text.dropWhile accepts).head? = other.head?) :
    (text.takeWhile accepts ++ other).takeWhile accepts = text.takeWhile accepts ∧
      (text.takeWhile accepts ++ other).dropWhile accepts = other := by
  have each : ∀ char ∈ text.takeWhile accepts, accepts char = true := fun _ member =>
    List.mem_takeWhile_imp member
  rw [List.takeWhile_append_of_pos each, List.dropWhile_append_of_pos each]
  cases other with
  | nil => simp
  | cons char more =>
    -- What stopped the first time stops again.
    have stops : accepts char = false := by
      have found := List.head?_dropWhile_not accepts text
      rw [same] at found
      simpa using found
    simp [stops]

/-- A point with a digit behind it makes a number a float. -/
theorem numberPiece_float {text more : List Char} {digit : Char}
    (behind : text.dropWhile isDecimal = '.' :: digit :: more) (decimal : isDecimal digit = true) :
    numberPiece text =
      (.plain .float (text.takeWhile isDecimal ++ '.' :: (digit :: more).takeWhile isDecimal),
        (digit :: more).dropWhile isDecimal) := by
  -- A point with a digit behind it is part of the number.
  simp only [numberPiece, behind, decimal, if_true]

/-- Without a point and a digit behind it, a number is an integer. -/
theorem numberPiece_integer {text : List Char}
    (behind : ∀ digit more, text.dropWhile isDecimal = '.' :: digit :: more →
      isDecimal digit = false) :
    numberPiece text = (.plain .integer (text.takeWhile isDecimal), text.dropWhile isDecimal) := by
  -- In the other branch the point would need a digit behind it.
  unfold numberPiece
  split
  · rename_i digit more found
    simp only [behind digit more found, found]
    rfl
  · rfl

/-- A number is cut off again in front of what looks alike. -/
theorem numberPiece_again {text : List Char} (same : LooksAlike (numberPiece text).2 other) :
    numberPiece ((numberPiece text).1.spelling ++ other) = ((numberPiece text).1, other) := by
  by_cases found : ∃ digit more, text.dropWhile isDecimal = '.' :: digit :: more ∧
      isDecimal digit = true
  · obtain ⟨digit, more, behind, decimal⟩ := found
    rw [numberPiece_float behind decimal] at same ⊢
    obtain ⟨again, left⟩ := takeWhile_again same.1
    -- The point ends the first digits, and the same character as before ends the others.
    have point : (text.takeWhile isDecimal ++ '.' ::
        ((digit :: more).takeWhile isDecimal ++ other)).dropWhile isDecimal =
          '.' :: ((digit :: more).takeWhile isDecimal ++ other) :=
      (takeWhile_again (by rw [behind]; rfl)).2
    have whole : (text.takeWhile isDecimal ++ '.' ::
        ((digit :: more).takeWhile isDecimal ++ other)).takeWhile isDecimal =
          text.takeWhile isDecimal :=
      (takeWhile_again (by rw [behind]; rfl)).1
    have first : (digit :: more).takeWhile isDecimal = digit :: more.takeWhile isDecimal :=
      List.takeWhile_cons_of_pos decimal
    rw [first] at again left point whole ⊢
    simp only [Piece.plain, Piece.spelling, List.append_assoc, List.cons_append] at *
    rw [numberPiece_float point decimal, whole, again, left]
    rfl
  · have integer (digit : Char) (more : List Char)
        (behind : text.dropWhile isDecimal = '.' :: digit :: more) : isDecimal digit = false := by
      cases decimal : isDecimal digit with
      | false => rfl
      | true => exact absurd ⟨digit, more, behind, decimal⟩ found
    rw [numberPiece_integer integer] at same ⊢
    obtain ⟨again, left⟩ := takeWhile_again same.1
    have joined := @numberPiece_integer (text.takeWhile isDecimal ++ other) (by
      intro digit more behind
      rw [left] at behind
      subst behind
      -- What stands there now are the two characters that stood there before.
      obtain ⟨rest, before⟩ := eq_cons_of_take_two (same.2 same.1)
      exact integer digit rest before)
    rw [again, left] at joined
    exact joined

/-- An operand is cut off again in front of what looks alike. -/
theorem operandPiece_again {tag : Tag} {char : Char} {text : List Char} {piece : Piece}
    {after : Zone} (read : operandPiece tag char text = .piece piece after rest)
    (same : LooksAlike rest other) :
    ∃ more, piece.spelling = char :: more ∧
      operandPiece tag char (more ++ other) = .piece piece after other := by
  have sign (read : signPiece tag char text = .piece piece after rest) :
      piece.spelling = [char] ∧ signPiece tag char other = .piece piece after other := by
    unfold signPiece at read ⊢
    split at read
    · cases read
      exact ⟨rfl, rfl⟩
    · cases read
  by_cases quoted : (char = '\'' || char = '"') = true
  · simp only [operandPiece, quoted, if_true] at read ⊢
    split at read
    · rename_i body tail found
      cases read
      have quote : char ≠ '\\' := by
        rintro rfl
        simp at quoted
      have again := (splitString_spells found).split quote other
      rw [List.append_cons] at again
      exact ⟨body ++ [char], rfl, by simp only [again]⟩
    · -- A quote is no sign.
      simp only [Bool.or_eq_true, decide_eq_true_eq] at quoted
      rcases quoted with rfl | rfl <;> cases read
  · by_cases starts : isNameStart char = true
    · simp only [operandPiece, quoted, starts, if_true] at read ⊢
      cases read
      obtain ⟨again, left⟩ := takeWhile_again same.1
      exact ⟨text.takeWhile isNameChar, rfl, by simp only [again, left]; rfl⟩
    · by_cases digit : isDecimal char = true
      · simp only [operandPiece, quoted, starts, digit, if_true] at read ⊢
        cases read
        -- The number starts with the digit, since it is not empty.
        have joined := numberPiece_append (char :: text)
        obtain ⟨first, more, spelled⟩ :=
          List.exists_cons_of_ne_nil (@numberPiece_spelling_ne_nil char text digit)
        rw [spelled] at joined
        obtain ⟨rfl, _⟩ := List.cons.inj joined
        have again := numberPiece_again same
        rw [spelled, List.cons_append] at again
        exact ⟨more, spelled, by simp only [again]; rfl⟩
      · simp only [operandPiece, quoted, starts, digit] at read ⊢
        obtain ⟨spelled, again⟩ := sign read
        exact ⟨[], spelled, again⟩

/-- A piece of a tag is cut off again in front of what looks alike, where no closer comes about. -/
theorem nextInTag_alike {tag : Tag} {text : List Char} {piece : Piece} {after : Zone}
    (read : nextInTag tag text = .piece piece after rest) (same : LooksAlike rest other)
    (unclosed : tag.closer <+: piece.spelling ++ other → tag.closer <+: text) :
    nextInTag tag (piece.spelling ++ other) = .piece piece after other := by
  cases text with
  | nil => cases read
  | cons char text =>
    by_cases blank : isBlank char = true
    · simp only [nextInTag, blank, if_true] at read
      cases read
      obtain ⟨again, left⟩ := takeWhile_again same.1
      simp only [Piece.spelling, List.cons_append, nextInTag, blank, if_true, again, left]
    · by_cases closes : tag.closer.isPrefixOf (char :: text) = true
      · simp only [nextInTag, blank, closes, if_true] at read
        cases read
        exact nextInTag_closer tag other
      · simp only [nextInTag, blank, closes] at read
        obtain ⟨more, spelled, again⟩ := operandPiece_again read same
        -- No closer stands there now, as none stood there before.
        have open_ : tag.closer.isPrefixOf (char :: (more ++ other)) = false := by
          refine Bool.eq_false_iff.2 fun held => closes (List.isPrefixOf_iff_prefix.2 ?_)
          rw [spelled, List.cons_append] at unclosed
          exact unclosed (List.isPrefixOf_iff_prefix.1 held)
        rw [spelled, List.cons_append]
        simp only [nextInTag, blank, open_]
        exact again

/-- A piece of a tag is cut off again in front of the same two characters. -/
theorem nextInTag_again {tag : Tag} {text : List Char} {piece : Piece} {after : Zone}
    (read : nextInTag tag text = .piece piece after rest) (same : rest.take 2 = other.take 2) :
    nextInTag tag (piece.spelling ++ other) = .piece piece after other := by
  -- The reading looks at two characters behind the piece at most, and these are the same.
  refine nextInTag_alike read (looksAlike_of_take_two same) fun held => ?_
  rw [← nextInTag_append read]
  exact (closer_take_two (take_two_append same piece.spelling)).2 held

/-- Data that is cut off stops before the end of a text, or before what it would not run into. -/
theorem splitData_stops (text : List Char) : StopsBefore (splitData text).1 (splitData text).2 := by
  fun_induction splitData text with
  | case1 => exact .inl rfl
  | case2 => exact .inl rfl
  | case3 first second rest opens =>
    obtain ⟨rfl, _⟩ : first = '{' ∧ _ := by simpa [isOpener] using opens
    exact .inr ⟨⟨second, rest, rfl, opens⟩, by simp⟩
  | case4 first second rest closed data tail split ih =>
    rw [split] at ih
    rcases ih with rfl | ⟨⟨mark, more, rfl, opens⟩, last⟩
    · exact .inl rfl
    · refine .inr ⟨⟨mark, more, rfl, opens⟩, ?_⟩
      cases data with
      | cons char data => simpa using last
      | nil =>
        -- The character in front of a brace is none itself, as the two would open something.
        have joined := splitData_append (second :: rest)
        simp only [split] at joined
        cases joined
        have other : first ≠ '{' := by
          rintro rfl
          exact closed (by simp [isOpener])
        simpa using other

/-- Data that comes next stops before what follows it. -/
theorem nextInText_stops {text data : List Char} {after : Zone}
    (read : nextInText text = .piece (.plain .data data) after rest) : StopsBefore data rest := by
  -- Only the last branch gives data, and it stops where the search for an opener does.
  unfold nextInText at read
  split at read <;> try cases read
  · split at read <;> cases read
  · exact splitData_stops text

/-- What a text stops before is decided by two characters. -/
theorem StopsBefore.take_two {text : List Char} (stops : StopsBefore text rest)
    (same : rest.take 2 = other.take 2) : StopsBefore text other := by
  -- Data ends at the end of the text or before an opener, and both can be seen in two characters.
  rcases stops with rfl | ⟨⟨mark, more, rfl, opens⟩, last⟩
  · cases other with
    | nil => exact .inl rfl
    | cons char others => simp at same
  · obtain ⟨others, rfl⟩ := eq_cons_of_take_two same.symm
    exact .inr ⟨⟨mark, others, rfl, opens⟩, last⟩

/-- A comment without an end in it is cut off at the end behind it. -/
theorem splitComment_body {body : List Char} (apart : ¬ ['#', '}'] <:+: body) (rest : List Char) :
    splitComment (body ++ '#' :: '}' :: rest) = some (body ++ ['#', '}'], rest) := by
  induction body with
  | nil => rfl
  | cons char body ih =>
    have later := ih fun held => apart (held.trans (List.suffix_cons char body).isInfix)
    -- The first two characters of the comment are no end of it.
    have open_ : ∀ more, char = '#' → body ++ '#' :: '}' :: rest = '}' :: more → False := by
      rintro more rfl same
      cases body with
      | nil => cases same
      | cons second body =>
        cases same
        exact apart ⟨[], body, rfl⟩
    rw [List.cons_append, splitComment.eq_3 _ _ open_, later]
    rfl

/-- A comment is one piece, whatever stands behind it. -/
theorem nextInText_comment {body : List Char} (apart : ¬ ['#', '}'] <:+: body) (rest : List Char) :
    nextInText ('{' :: '#' :: (body ++ ['#', '}']) ++ rest) =
      .piece (.gap ('{' :: '#' :: (body ++ ['#', '}']))) .text rest := by
  -- The body holds no end mark, so the comment ends where it was meant to.
  simp only [List.cons_append, List.append_assoc, List.nil_append, nextInText,
    splitComment_body apart]

/-- What opens a tag is one piece, whatever stands behind it. -/
theorem nextInText_opener (tag : Tag) (rest : List Char) :
    nextInText (tag.opener ++ rest) = .piece (.plain tag.openKind tag.opener) (.tag tag) rest := by
  -- Either opener is found by its two characters.
  cases tag <;> rfl

end

end Stencil
