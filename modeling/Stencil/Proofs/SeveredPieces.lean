import Stencil.Proofs.BraceCloser

/-! Pieces that lead into a tag are cut again in front of a character that goes on with none. -/

namespace Stencil

/-- Whether a piece of a tag would take in the start of a text that stands behind it. -/
def Piece.runsInto : Piece → List Char → Bool
  | .gap _, char :: _ => isBlank char
  | .token .name _ _, char :: _ => isNameChar char
  | .token .float _ _, char :: _ => isDecimal char
  -- A point goes on with an integer if a digit stands behind it.
  | .token .integer _ _, char :: rest =>
    isDecimal char || (char = '.' && rest.head?.any isDecimal)
  | _, _ => false

/-- A character that goes on with no token of a tag, and closes none. -/
structure Severs (char : Char) : Prop where
  word : isNameChar char = false
  digit : isDecimal char = false
  point : char ≠ '.'
  brace : char ≠ '}'

section

variable {tag : Tag} {piece : Piece} {text rest other : List Char} {char : Char}

/-- Characters of one kind are taken up to one that is not of it, with what is left behind them. -/
theorem taken_apart {accepts : Char → Bool} {word : List Char}
    (each : ∀ char ∈ word, accepts char = true)
    (apart : ∀ char more, other = char :: more → accepts char = false) :
    (word ++ other).takeWhile accepts = word ∧ (word ++ other).dropWhile accepts = other := by
  -- The word is accepted as a whole, and the character behind it is not.
  rw [List.takeWhile_append_of_pos each, List.dropWhile_append_of_pos each]
  cases other with
  | nil => simp
  | cons char more => simp [apart char more rfl]

/-- What is left behind the characters of one kind does not start with another of them. -/
theorem head_dropWhile {accepts : Char → Bool} {more : List Char}
    (left : text.dropWhile accepts = char :: more) : accepts char = false := by
  -- What is left starts with a character that was not dropped.
  have found := List.head?_dropWhile_not accepts text
  rw [left] at found
  simpa using found

/-- A letter starts a name inside a tag. -/
theorem nextInTag_letter (starts : isNameStart char = true) (rest : List Char) :
    nextInTag tag (char :: rest) =
      .piece (.plain .name (char :: rest.takeWhile isNameChar)) (.tag tag)
        (rest.dropWhile isNameChar) := by
  -- A letter is no blank, no closer and no quote, so the reading comes to the case of names.
  have range := toNat_nameStart starts
  rw [nextInTag_operand (isBlank_visible (by omega) (by omega)) (ne_of_toNat (by simp; omega))
    (ne_of_toNat (by simp; omega))]
  have single : char ≠ '\'' := ne_of_toNat (by simp; omega)
  have double : char ≠ '"' := ne_of_toNat (by simp; omega)
  simp [operandPiece, single, double, starts]

/-- A name is cut off inside a tag in front of what cannot go on with it. -/
theorem nextInTag_name {word : String} (identifier : IsIdentifier word)
    (stops : ∀ char more, rest = char :: more → isNameChar char = false) :
    nextInTag tag (word.toList ++ rest) = .piece (nameWord word) (.tag tag) rest := by
  -- The word is taken up to the first character that cannot continue a name.
  obtain ⟨first, others, spelled, starts, continues⟩ := identifier
  have taken := taken_apart (List.all_eq_true.1 continues) stops
  simp only [nameWord, Piece.plain, spelled, List.cons_append, nextInTag_letter starts, taken]

/-- A digit of any script starts a number inside a tag. -/
theorem nextInTag_digit (digit : isDecimal char = true) (rest : List Char) :
    nextInTag tag (char :: rest) =
      .piece (numberPiece (char :: rest)).1 (.tag tag) (numberPiece (char :: rest)).2 := by
  rw [nextInTag_operand (isBlank_decimal digit) (ne_of_isDecimal digit (by decide))
    (ne_of_isDecimal digit (by decide))]
  have single : char ≠ '\'' := ne_of_isDecimal digit (by decide)
  have double : char ≠ '"' := ne_of_isDecimal digit (by decide)
  -- No script has its digits among the letters.
  have unnamed : isNameStart char = false := by
    cases starts : isNameStart char with
    | false => rfl
    | true =>
      have letters := toNat_nameStart starts
      have capitals : char.toNat < 65 ∨ 90 < char.toNat := toNat_decimal digit (by decide)
      have small : char.toNat < 95 ∨ 122 < char.toNat := toNat_decimal digit (by decide)
      omega
  simp [operandPiece, single, double, unnamed, digit]

/-- A quote starts a string inside a tag, if it is closed. -/
theorem nextInTag_quote {quote : Char} {body : List Char} (quoted : IsQuote quote)
    (split : splitString quote text = some (body, rest)) :
    nextInTag tag (quote :: text) =
      .piece (.token .string (quote :: body ++ [quote]) (unescape body)) (.tag tag) rest := by
  -- A quote is tried before all other operands, and the string was found to be closed.
  have visible : isBlank quote = false := by rcases quoted with rfl | rfl <;> decide
  have brace : quote ≠ '}' := by rcases quoted with rfl | rfl <;> decide
  have mark : quote ≠ '%' := by rcases quoted with rfl | rfl <;> decide
  have held : (quote = '\'' || quote = '"') = true := by rcases quoted with rfl | rfl <;> rfl
  rw [nextInTag_operand visible brace mark]
  simp only [operandPiece, held, if_true, split]

/-- A sign stands for itself inside a tag, if it does not close that. -/
theorem nextInTag_sign {kind : TokenKind} (sign : punctuation? char = some kind)
    (open_ : ¬ tag.closer <+: char :: rest) :
    nextInTag tag (char :: rest) = .piece (.plain kind [char]) (.tag tag) rest := by
  -- There are seven signs, none of which starts anything else.
  have plain : isBlank char = false ∧ (char = '\'' || char = '"') = false ∧
      isNameStart char = false ∧ isDecimal char = false := by
    unfold punctuation? at sign
    split at sign <;> first | decide | cases sign
  obtain ⟨visible, unquoted, unnamed, wordless⟩ := plain
  have closes : tag.closer.isPrefixOf (char :: rest) = false :=
    Bool.eq_false_iff.2 fun held => open_ (List.isPrefixOf_iff_prefix.1 held)
  simp [nextInTag, visible, closes, operandPiece, unquoted, unnamed, wordless, signPiece, sign]

/-- What stands between quotes spells only what its escapes give way to. -/
theorem SpellsBetween.value {quote : Char} {body value : List Char}
    (spells : SpellsBetween quote body value) : value = unescape body := by
  -- Spelling and decoding have the same cases.
  induction spells with
  | ended => rfl
  | plain _ plain _ ih =>
    rw [unescape.eq_2 _ _ fun kept rest same => absurd same plain, ih]
  | kept other _ ih => rw [unescape, if_neg other, ih]
  | broken _ ih => rw [unescape, if_pos rfl, ih]

/-- A piece of a tag is cut off in front of a text that it does not run into, unless it closes the
tag together with that. -/
theorem Stands.cutOff (stands : Stands (.tag tag) piece (.tag tag))
    (apart : piece.runsInto other = false) (open_ : ¬ tag.closer <+: piece.spelling ++ other) :
    nextInTag tag (piece.spelling ++ other) = .piece piece (.tag tag) other := by
  have head {accepts : Char → Bool} (stops : ∀ char more, other = char :: more →
      piece.runsInto other = accepts char) :
      ∀ char more, other = char :: more → accepts char = false :=
    fun char more same => (stops char more same).symm.trans apart
  cases stands with
  | blanks full each =>
    refine nextInTag_blanks tag full each fun char first => ?_
    obtain ⟨more, rfl⟩ := List.head?_eq_some_iff.1 first
    exact apart
  | @name _ word identifier =>
    refine nextInTag_name identifier (head ?_)
    rintro char more rfl
    rfl
  | @integer _ digits full each =>
    obtain ⟨first, others, rfl⟩ := List.exists_cons_of_ne_nil full
    have taken := @taken_apart other _ _ each fun char more same => by
      subst same
      exact (Bool.or_eq_false_iff.1 apart).1
    -- A point behind the digits has no other digit behind it.
    have pointless (digit : Char) (more : List Char)
        (left : (first :: others ++ other).dropWhile isDecimal = '.' :: digit :: more) :
        isDecimal digit = false := by
      rw [taken.2] at left
      subst left
      have stops := apart
      simp only [Piece.plain, Piece.runsInto, Bool.or_eq_false_iff] at stops
      simpa using stops.2
    rw [Piece.plain, Piece.spelling, List.cons_append, nextInTag_digit (each first (by simp)),
      ← List.cons_append, numberPiece_integer pointless, taken.1, taken.2]
    rfl
  | @float _ whole part full some each eachBehind =>
    obtain ⟨first, others, rfl⟩ := List.exists_cons_of_ne_nil full
    obtain ⟨digit, more, rfl⟩ := List.exists_cons_of_ne_nil some
    have front := @taken_apart ('.' :: digit :: (more ++ other)) _ _ each fun char more same => by
      cases same
      decide
    have back := taken_apart eachBehind (@head isDecimal (by
      rintro char more rfl
      rfl))
    rw [List.cons_append] at back
    have joined : (first :: others ++ '.' :: digit :: more) ++ other =
        first :: others ++ '.' :: digit :: (more ++ other) := by simp
    rw [Piece.plain, Piece.spelling, joined, List.cons_append,
      nextInTag_digit (each first (by simp)), ← List.cons_append,
      numberPiece_float front.2 (eachBehind digit (by simp)), front.1, back.1, back.2]
    rfl
  | @string _ quote body value quoted spells =>
    have other : quote ≠ '\\' := by rcases quoted with rfl | rfl <;> decide
    have split := spells.split other
    rw [Piece.spelling, List.cons_append, List.append_assoc, List.singleton_append,
      nextInTag_quote quoted (split _), spells.value]
    rfl
  | sign found => exact nextInTag_sign found open_

/-- No piece runs into the end of a text. -/
theorem Piece.runsInto_nil (piece : Piece) : piece.runsInto [] = false := by
  -- Where nothing follows, nothing can be run into.
  cases piece with
  | gap spelling => rfl
  | token kind spelling value => cases kind <;> rfl

/-- A number that is cut off does not run into what is left. -/
theorem numberPiece_apart (text : List Char) :
    (numberPiece text).1.runsInto (numberPiece text).2 = false := by
  unfold numberPiece
  split
  · rename_i digit more left
    split
    · -- What is left behind the second digits does not start with one.
      cases behind : (digit :: more).dropWhile isDecimal with
      | nil => rfl
      | cons char rest => exact head_dropWhile behind
    · rename_i other
      simp only [Piece.plain, Piece.runsInto, Bool.or_eq_false_iff, Bool.and_eq_false_iff]
      exact ⟨head_dropWhile left, .inr (by simpa using other)⟩
  · rename_i pointless
    cases left : text.dropWhile isDecimal with
    | nil => rfl
    | cons char rest =>
      simp only [Piece.plain, Piece.runsInto, Bool.or_eq_false_iff, Bool.and_eq_false_iff]
      refine ⟨head_dropWhile left, ?_⟩
      cases rest with
      | nil => exact .inr rfl
      | cons second rest =>
        refine .inl (decide_eq_false ?_)
        rintro rfl
        exact pointless second rest left

/-- A piece that is cut off inside a tag does not run into what is left. -/
theorem nextInTag_apart (read : nextInTag tag text = .piece piece (.tag tag) rest) :
    piece.runsInto rest = false := by
  have behind {accepts : Char → Bool} {kept : Piece} (left : List Char)
      (same : ∀ char more, kept.runsInto (char :: more) = accepts char) :
      kept.runsInto (left.dropWhile accepts) = false := by
    cases dropped : left.dropWhile accepts with
    | nil => exact kept.runsInto_nil
    | cons char more => exact (same char more).trans (head_dropWhile dropped)
  have sign {char : Char} {text : List Char}
      (read : signPiece tag char text = .piece piece (.tag tag) rest) :
      piece.runsInto rest = false := by
    unfold signPiece at read
    split at read
    · rename_i found
      cases read
      -- None of the kinds of sign runs into anything.
      unfold punctuation? at found
      split at found <;> cases found <;> rfl
    · cases read
  cases text with
  | nil => cases read
  | cons char text =>
    simp only [nextInTag, operandPiece] at read
    split at read
    · cases read
      exact behind text fun _ _ => rfl
    · split at read
      · cases read
      · split at read
        · split at read
          · cases read
            rfl
          · exact sign read
        · split at read
          · cases read
            exact behind text fun _ _ => rfl
          · split at read
            · cases read
              exact numberPiece_apart (char :: text)
            · exact sign read

/-- A piece runs into no text that starts as one that it does not run into, and goes on with a
character that severs. -/
theorem Piece.runsInto_severed {front : List Char}
    (apart : piece.runsInto (front ++ rest) = false) (full : front ≠ []) (severs : Severs char)
    (more : List Char) : piece.runsInto (front ++ char :: more) = false := by
  cases piece with
  | gap spelling =>
    obtain ⟨first, others, rfl⟩ := List.exists_cons_of_ne_nil full
    exact apart
  | token kind spelling value =>
    obtain ⟨first, others, rfl⟩ := List.exists_cons_of_ne_nil full
    cases kind with
    | integer =>
      -- Only an integer looks at a second character, which is no digit now.
      cases others with
      | nil =>
        simp only [runsInto, List.cons_append, List.nil_append, Bool.or_eq_false_iff] at apart ⊢
        exact ⟨apart.1, by simp [severs.digit]⟩
      | cons second others => exact apart
    | _ => exact apart

/-- No tag is closed by a text that starts as one that does not close it, and goes on with a
character that severs. -/
theorem unclosed_severed {front : List Char} (open_ : ¬ tag.closer <+: front ++ rest)
    (full : front ≠ []) (severs : Severs char) (more : List Char) :
    ¬ tag.closer <+: front ++ char :: more := by
  obtain ⟨first, others, rfl⟩ := List.exists_cons_of_ne_nil full
  cases others with
  | nil =>
    -- The second character of a closer is a brace.
    have brace := severs.brace.symm
    cases tag <;> simp [Tag.closer, brace]
  | cons second others =>
    intro held
    exact open_ ((closer_take_two (by simp)).1 held)

/-- A tag that goes on is not closed where its next piece starts. -/
theorem nextInTag_unclosed (read : nextInTag tag text = .piece piece (.tag tag) rest) :
    ¬ tag.closer <+: text := by
  -- The closer would have been read, and it leads out of the tag.
  intro held
  obtain ⟨behind, rfl⟩ := held
  rw [nextInTag_closer] at read
  cases read

end

/-- The first pieces of a text, with the zone and the text that they lead to. -/
inductive CutsOff : Zone → List Char → List Piece → Zone → List Char → Prop
  | none {zone : Zone} {text : List Char} : CutsOff zone text [] zone text
  | piece {zone next last : Zone} {text behind rest : List Char} {piece : Piece}
    {pieces : List Piece} : nextPiece zone text = .piece piece next behind →
      CutsOff next behind pieces last rest → CutsOff zone text (piece :: pieces) last rest

section

variable {zone last : Zone} {text rest : List Char} {front : List Piece}

/-- The first of the pieces of a text are cut off from it. -/
theorem piecesOf_cutsOff {back : List Piece} (cut : (piecesOf zone text).1 = front ++ back) :
    ∃ last rest, CutsOff zone text front last rest := by
  -- Induction on the pieces that are cut off: each is the first piece of what is left.
  induction front generalizing zone text with
  | nil => exact ⟨zone, text, .none⟩
  | cons piece front ih =>
    obtain ⟨next, behind, read, others⟩ := piecesOf_eq_cons (Prod.ext cut rfl)
    obtain ⟨last, rest, cutsOff⟩ := ih (congrArg Prod.fst others)
    exact ⟨last, rest, .piece read cutsOff⟩

/-- The pieces of a text are those that are cut off first, and those of what is left. -/
theorem CutsOff.pieces (cutsOff : CutsOff zone text front last rest) :
    piecesOf zone text = (front ++ (piecesOf last rest).1, (piecesOf last rest).2) := by
  -- The pieces in front are cut off one at a time.
  induction cutsOff with
  | none => rfl
  | piece read _ ih =>
    rw [piecesOf_cons read, ih]
    rfl

/-- What is cut off makes up the text, together with what is left. -/
theorem CutsOff.joined (cutsOff : CutsOff zone text front last rest) :
    spellingOf front ++ rest = text := by
  -- Each piece spells what it takes from the text.
  induction cutsOff with
  | none => rfl
  | piece read _ ih =>
    rw [← nextPiece_append read, ← ih]
    simp [spellingOf]

/-- What is cut off follows one another. -/
theorem CutsOff.follow (cutsOff : CutsOff zone text front last rest) : Follow zone front last := by
  -- Each piece stands where it was read.
  induction cutsOff with
  | none => exact .done
  | piece read _ ih => exact .piece (nextPiece_stands read) ih

/-- Two characters at least lead from plain text into a tag. -/
theorem Follow.long {tag : Tag} (follow : Follow .text front (.tag tag)) :
    2 ≤ (spellingOf front).length := by
  -- A tag is entered only by its opener, which has two characters. Data and comments before it do
  -- not shorten the text.
  generalize start : Zone.text = zone at follow
  generalize reached : Zone.tag tag = last at follow
  induction follow with
  | done =>
    subst start
    cases reached
  | @piece zone next last piece pieces stands follow ih =>
    subst start reached
    have spelled : spellingOf (piece :: pieces) = piece.spelling ++ spellingOf pieces := rfl
    rw [spelled, List.length_append]
    cases stands with
    | data | comment =>
      have others := ih rfl rfl
      omega
    | opening tag => simp [Piece.plain, Piece.spelling, Tag.opener]

/-- A piece in front of others that lead into a tag is cut off again in front of a character that
severs, unless it is the last one and runs into that. -/
theorem CutsOff.again {tag : Tag} {next : Zone} {behind : List Char} {piece : Piece} {char : Char}
    (read : nextPiece zone text = .piece piece next behind)
    (cutsOff : CutsOff next behind front (.tag tag) rest) (severs : Severs char) (more : List Char)
    (apart : front = [] → piece.runsInto (char :: more) = false) :
    nextPiece zone (piece.spelling ++ (spellingOf front ++ char :: more)) =
      .piece piece next (spellingOf front ++ char :: more) := by
  have inTag {tag : Tag} (zoned : zone = .tag tag) (stays : next = .tag tag) :
      nextPiece zone (piece.spelling ++ (spellingOf front ++ char :: more)) =
        .piece piece next (spellingOf front ++ char :: more) := by
    subst zoned stays
    have stands := nextInTag_stands read
    have open_ := nextInTag_unclosed read
    rw [← nextInTag_append read] at open_
    by_cases last : front = []
    · subst last
      exact stands.cutOff (apart rfl) (unclosed_severed open_ stands.full severs more)
    · -- What stands behind the piece starts with the next one, as it did before.
      have full : spellingOf front ≠ [] := by
        obtain ⟨second, others, rfl⟩ := List.exists_cons_of_ne_nil last
        have some := cutsOff.follow.full second (by simp)
        simp [spellingOf, some]
      have before := nextInTag_apart read
      rw [← cutsOff.joined] at before open_
      rw [← List.append_assoc] at open_
      refine stands.cutOff (Piece.runsInto_severed before full severs more) ?_
      rw [← List.append_assoc]
      exact unclosed_severed open_ (by simp [full]) severs more
  have stands := nextPiece_stands read
  cases stands with
  | @data data full opensNothing =>
    -- A tag is still to be opened, so that two characters are known.
    have long := cutsOff.follow.long
    have stops : StopsBefore data behind := nextInText_stops read
    rw [← cutsOff.joined] at stops
    refine nextInText_plain opensNothing full (stops.take_two ?_)
    rw [List.take_append_of_le_length long, List.take_append_of_le_length long]
  | comment ends => exact nextInText_comment ends _
  | opening tag => exact nextInText_opener tag _
  | closing tag => exact nextInTag_closer tag _
  | blanks | name | integer | float | string | sign => exact inTag rfl rfl

/-- Pieces that lead into a tag are cut off again in front of a character that severs, if the last
of them does not run into that. -/
theorem CutsOff.severed {tag : Tag} {char : Char}
    (cutsOff : CutsOff zone text front (.tag tag) rest) (severs : Severs char) (more : List Char)
    (apart : ∀ piece, front.getLast? = some piece → piece.runsInto (char :: more) = false) :
    CutsOff zone (spellingOf front ++ char :: more) front (.tag tag) (char :: more) := by
  induction front generalizing zone text with
  | nil =>
    cases cutsOff
    exact .none
  | cons piece front ih =>
    cases cutsOff with
    | piece read cutsOff =>
      have spelled : spellingOf (piece :: front) ++ char :: more =
          piece.spelling ++ (spellingOf front ++ char :: more) := by simp [spellingOf]
      rw [spelled]
      refine .piece (cutsOff.again read severs more fun last => ?_)
        (ih cutsOff fun other last => ?_)
      · exact apart piece (by rw [last]; rfl)
      · -- The last of the others is the last of all.
        refine apart other ?_
        rw [List.getLast?_cons, last]
        rfl

end

end Stencil
