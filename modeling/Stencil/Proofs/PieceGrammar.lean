import Mathlib.Data.List.TakeWhile
import Stencil.Proofs.PrintedTokens

/-! What the pieces of a text are, and what keeps a text from being cut into them. -/

namespace Stencil

/-- What may stand between the quotes of a string, with the value that it spells. -/
inductive SpellsBetween (quote : Char) : List Char → List Char → Prop
  | ended : SpellsBetween quote [] []
  | plain {char : Char} {body value : List Char} : char ≠ quote → char ≠ '\\' →
      SpellsBetween quote body value → SpellsBetween quote (char :: body) (char :: value)
  | kept {char : Char} {body value : List Char} : char ≠ '\n' →
      SpellsBetween quote body value → SpellsBetween quote ('\\' :: char :: body) (char :: value)
  -- A backslash in front of a line end stays.
  | broken {body value : List Char} : SpellsBetween quote body value →
      SpellsBetween quote ('\\' :: '\n' :: body) ('\\' :: '\n' :: value)

/-- What a piece may be in the zone where it stands, with the zone that it leads to. -/
inductive Stands : Zone → Piece → Zone → Prop
  -- In text: data, comments and what opens a tag.
  | data {text : List Char} : text ≠ [] → OpensNothing text →
      Stands .text (.plain .data text) .text
  | comment {body : List Char} : ¬ ['#', '}'] <:+: body →
      Stands .text (.gap ('{' :: '#' :: (body ++ ['#', '}']))) .text
  | opening (tag : Tag) : Stands .text (.plain tag.openKind tag.opener) (.tag tag)
  -- In a tag: its closer, blanks and operands.
  | closing (tag : Tag) : Stands (.tag tag) (.plain tag.closeKind tag.closer) .text
  | blanks {tag : Tag} {text : List Char} : text ≠ [] → (∀ char ∈ text, isBlank char = true) →
      Stands (.tag tag) (.gap text) (.tag tag)
  | name {tag : Tag} {word : String} : IsIdentifier word →
      Stands (.tag tag) (.plain .name word.toList) (.tag tag)
  | integer {tag : Tag} {digits : List Char} : digits ≠ [] →
      (∀ char ∈ digits, isDecimal char = true) →
      Stands (.tag tag) (.plain .integer digits) (.tag tag)
  | float {tag : Tag} {whole part : List Char} : whole ≠ [] → part ≠ [] →
      (∀ char ∈ whole, isDecimal char = true) → (∀ char ∈ part, isDecimal char = true) →
      Stands (.tag tag) (.plain .float (whole ++ '.' :: part)) (.tag tag)
  | string {tag : Tag} {quote : Char} {body value : List Char} : IsQuote quote →
      SpellsBetween quote body value →
      Stands (.tag tag) (.token .string (quote :: (body ++ [quote])) value) (.tag tag)
  | sign {tag : Tag} {char : Char} {kind : TokenKind} : punctuation? char = some kind →
      Stands (.tag tag) (.plain kind [char]) (.tag tag)

/-- Pieces that follow one another, from the zone of the first to the zone behind the last. -/
inductive Follow : Zone → List Piece → Zone → Prop
  | done {zone : Zone} : Follow zone [] zone
  | piece {zone next last : Zone} {piece : Piece} {pieces : List Piece} : Stands zone piece next →
      Follow next pieces last → Follow zone (piece :: pieces) last

/-- What a problem is, where it stands in front of the rest of a text. -/
inductive Blocks : Zone → List Char → LexProblem → Prop
  | comment {rest : List Char} : ¬ ['#', '}'] <:+: rest →
      Blocks .text ('{' :: '#' :: rest) .unclosedComment
  | tag (tag : Tag) : Blocks (.tag tag) [] (.unclosedTag tag)
  -- No piece that could stand here is a prefix of what is left.
  | stray {tag : Tag} {char : Char} {rest : List Char} :
      (∀ piece after, Stands (.tag tag) piece after → ¬ piece.spelling <+: char :: rest) →
      Blocks (.tag tag) (char :: rest) (.strayCharacter char)

section

variable {tag : Tag}

/-- No piece is empty. -/
theorem Stands.full {zone after : Zone} {piece : Piece} (stands : Stands zone piece after) :
    piece.spelling ≠ [] := by
  -- Every kind of piece spells at least one character: those that may be empty inside, such as a
  -- string or a comment, bring their own marks.
  cases stands with
  | data full | blanks full | integer full => exact full
  | opening | string | comment | sign => simp [Piece.plain, Piece.spelling, Tag.opener]
  | closing tag => cases tag <;> simp [Piece.plain, Piece.spelling, Tag.closer]
  | name identifier =>
    obtain ⟨first, others, same, _⟩ := identifier
    simp [Piece.plain, Piece.spelling, same]
  | float => simp [Piece.plain, Piece.spelling]

/-- None of the pieces that follow one another is empty. -/
theorem Follow.full {zone last : Zone} {pieces : List Piece} (follow : Follow zone pieces last) :
    ∀ piece ∈ pieces, piece.spelling ≠ [] := by
  -- Each piece of the sequence stands on its own.
  induction follow with
  | done => simp
  | piece stands _ ih => exact List.forall_mem_cons.2 ⟨stands.full, ih⟩

/-- Plain text is cut so that it opens nothing. -/
theorem splitData_opensNothing (text : List Char) : OpensNothing (splitData text).1 := by
  fun_induction splitData text with
  | case1 => simp [OpensNothing]
  | case2 char =>
    intro second _ held
    have := held.length_le
    simp at this
  | case3 => simp [OpensNothing]
  | case4 first second rest closed data tail split ih =>
    rw [split] at ih
    intro mark marked held
    -- What could open is the first pair, or stands behind the first character.
    rcases List.infix_cons_iff.1 held with start | later
    · obtain ⟨more, same⟩ := start
      have joined := splitData_append (second :: rest)
      simp only [split, ← (List.cons.inj same).2] at joined
      obtain ⟨rfl, _⟩ := List.cons.inj joined
      obtain ⟨rfl, _⟩ := List.cons.inj same
      exact closed (by simpa [isOpener, or_assoc] using marked)
    · exact ih mark marked later

/-- A comment ends at the first end of one. -/
theorem splitComment_some {text inner rest : List Char}
    (split : splitComment text = some (inner, rest)) :
    ∃ body, inner = body ++ ['#', '}'] ∧ ¬ ['#', '}'] <:+: body := by
  fun_induction splitComment text generalizing inner rest with
  | case1 =>
    cases split
    exact ⟨[], rfl, by simp⟩
  | case2 => cases split
  | case3 char tail other ih =>
    obtain ⟨⟨found, after⟩, cut, same⟩ := Option.map_eq_some_iff.1 split
    cases same
    obtain ⟨body, rfl, apart⟩ := ih cut
    refine ⟨char :: body, rfl, fun held => ?_⟩
    rcases List.infix_cons_iff.1 held with ⟨more, same⟩ | later
    · -- The text would have started with the end of a comment.
      obtain ⟨rfl, rfl⟩ := List.cons.inj same
      exact other (more ++ ['#', '}'] ++ rest) rfl (by simpa using (splitComment_append cut).symm)
    · exact apart later

/-- A comment that does not end has no end in it. -/
theorem splitComment_none {text : List Char} (split : splitComment text = none) :
    ¬ ['#', '}'] <:+: text := by
  -- The search tries every place of the text in turn, so what it did not find starts neither here
  -- nor later.
  fun_induction splitComment text with
  | case1 => cases split
  | case2 => simp
  | case3 char tail other ih =>
    intro held
    rcases List.infix_cons_iff.1 held with ⟨more, same⟩ | later
    · obtain ⟨rfl, rfl⟩ := List.cons.inj same
      exact other more rfl rfl
    · exact ih (Option.map_eq_none_iff.1 split) later

/-- What is cut off as a string spells its value. -/
theorem splitString_spells {quote : Char} {text body rest : List Char}
    (split : splitString quote text = some (body, rest)) :
    SpellsBetween quote body (unescape body) := by
  -- Follow the search for the closing quote. An escaped character goes along with its backslash,
  -- and decoding drops the backslash except before a line feed.
  fun_induction splitString quote text generalizing body rest with
  | case1 => cases split
  | case2 =>
    cases split
    exact .ended
  | case3 => cases split
  | case4 kept tail _ ih =>
    obtain ⟨⟨inner, after⟩, found, same⟩ := Option.map_eq_some_iff.1 split
    cases same
    by_cases line : kept = '\n'
    · subst line
      simpa [unescape] using SpellsBetween.broken (ih found)
    · simpa [unescape, line] using SpellsBetween.kept line (ih found)
  | case5 char tail other plain ih =>
    obtain ⟨⟨inner, after⟩, found, same⟩ := Option.map_eq_some_iff.1 split
    cases same
    simpa [unescape, plain] using SpellsBetween.plain other plain (ih found)

/-- What spells a value is cut off as a string in front of its quote. -/
theorem SpellsBetween.split {quote : Char} {body value : List Char} (other : quote ≠ '\\')
    (spells : SpellsBetween quote body value) (rest : List Char) :
    splitString quote (body ++ quote :: rest) = some (body, rest) := by
  -- The same cases as in reading: up to the closing quote no step of the search stops.
  induction spells with
  | ended => simp [splitString.eq_def]
  | plain apart plain _ ih =>
    rw [List.cons_append, splitString.eq_def]
    simp [apart, plain, ih]
  | kept _ _ ih | broken _ ih =>
    rw [List.cons_append, List.cons_append, splitString.eq_def]
    simp [other.symm, ih]

/-- What is cut off as a number is one. -/
theorem numberPiece_stands {char : Char} (digit : isDecimal char = true) (rest : List Char) :
    Stands (.tag tag) (numberPiece (char :: rest)).1 (.tag tag) := by
  -- A point belongs to the number only if a digit follows it, otherwise the number is the run of
  -- digits before it.
  have each {text : List Char} : ∀ char ∈ text.takeWhile isDecimal, isDecimal char = true :=
    fun _ member => List.mem_takeWhile_imp member
  have some : (char :: rest).takeWhile isDecimal ≠ [] := by simp [digit]
  unfold numberPiece
  split
  · rename_i next more _
    split
    · rename_i decimal
      exact .float some (by simp [decimal]) each each
    · exact .integer some each
  · exact .integer some each

/-- An operand is a string, a name, a number or a sign. -/
theorem operandPiece_stands {char : Char} {rest tail : List Char} {piece : Piece} {after : Zone}
    (read : operandPiece tag char rest = .piece piece after tail) :
    Stands (.tag tag) piece after := by
  -- The branches in their order: a quoted string, a name, a number, a sign. A quote that is never
  -- closed falls through to the signs.
  have sign (read : signPiece tag char rest = .piece piece after tail) :
      Stands (.tag tag) piece after := by
    unfold signPiece at read
    split at read
    · cases read
      exact .sign (by assumption)
    · cases read
  unfold operandPiece at read
  split at read
  · rename_i quote
    split at read
    · rename_i found
      cases read
      exact .string (by simpa [IsQuote] using quote) (splitString_spells found)
    · exact sign read
  · split at read
    · rename_i starts
      cases read
      have word : IsIdentifier (String.ofList (char :: rest.takeWhile isNameChar)) :=
        ⟨char, _, String.toList_ofList, starts,
          List.all_eq_true.2 fun _ member => List.mem_takeWhile_imp member⟩
      have named : Stands (.tag tag) (.plain .name (String.ofList _).toList) (.tag tag) :=
        .name word
      rwa [String.toList_ofList] at named
    · split at read
      · rename_i digit
        cases read
        exact numberPiece_stands digit rest
      · exact sign read

/-- What comes next in plain text is data, a comment, or what opens a tag. -/
theorem nextInText_stands {text rest : List Char} {piece : Piece} {after : Zone}
    (read : nextInText text = .piece piece after rest) : Stands .text piece after := by
  -- One case per way the text can open: a tag, a comment or data.
  have full := nextInText_spelling_ne_nil read
  unfold nextInText at read
  split at read
  · cases read
  · cases read
    exact .opening .output
  · cases read
    exact .opening .block
  · split at read
    · rename_i found
      cases read
      obtain ⟨body, rfl, apart⟩ := splitComment_some found
      exact .comment apart
    · cases read
  · cases read
    exact .data full (splitData_opensNothing _)

/-- What comes next inside a tag is a gap, what closes the tag, or an operand. -/
theorem nextInTag_stands {text rest : List Char} {piece : Piece} {after : Zone}
    (read : nextInTag tag text = .piece piece after rest) : Stands (.tag tag) piece after := by
  -- Blanks come before the closer and the closer before operands, as the reading asks for them.
  unfold nextInTag at read
  split at read
  · cases read
  · split at read
    · rename_i blank
      cases read
      refine .blanks (by simp) fun char member => ?_
      rcases List.mem_cons.1 member with rfl | member
      · exact blank
      · exact List.mem_takeWhile_imp member
    · split at read
      · cases read
        exact .closing tag
      · exact operandPiece_stands read

/-- What comes next in a text may stand there. -/
theorem nextPiece_stands {zone after : Zone} {text rest : List Char} {piece : Piece}
    (read : nextPiece zone text = .piece piece after rest) : Stands zone piece after := by
  -- The zone decides which of the two readings applies.
  cases zone with
  | text => exact nextInText_stands read
  | tag tag => exact nextInTag_stands read

/-- A text is finished at its end only, and in no tag. -/
theorem nextPiece_finished {zone : Zone} {text : List Char}
    (read : nextPiece zone text = .finished) :
    zone = .text ∧ text = [] := by
  cases zone with
  | text =>
    simp only [nextPiece, nextInText] at read
    split at read <;> try cases read
    · exact ⟨rfl, rfl⟩
    · split at read <;> cases read
  | tag tag =>
    simp only [nextPiece, nextInTag] at read
    split at read
    · cases read
    · split at read
      · cases read
      · split at read
        · cases read
        · -- An operand is a piece or a problem.
          simp only [operandPiece, signPiece] at read
          repeat' split at read
          all_goals cases read

/-- No operand is read at a character only if none can start there. -/
theorem operandPiece_problem {char : Char} {rest : List Char} {problem : LexProblem}
    (read : operandPiece tag char rest = .problem problem) :
    problem = .strayCharacter char ∧ punctuation? char = none ∧ isNameStart char = false ∧
      isDecimal char = false ∧ (IsQuote char → splitString char rest = none) := by
  have sign (read : signPiece tag char rest = .problem problem) :
      problem = .strayCharacter char ∧ punctuation? char = none := by
    unfold signPiece at read
    split at read
    · cases read
    · cases read
      exact ⟨rfl, by assumption⟩
  unfold operandPiece at read
  split at read
  · rename_i quote
    -- A quote is no letter and no digit.
    have other : isNameStart char = false ∧ isDecimal char = false := by
      simp only [Bool.or_eq_true, decide_eq_true_eq] at quote
      rcases quote with rfl | rfl <;> decide
    split at read
    · cases read
    · rename_i ended
      exact ⟨(sign read).1, (sign read).2, other.1, other.2, fun _ => ended⟩
  · rename_i plain
    split at read
    · cases read
    · rename_i letter
      split at read
      · cases read
      · rename_i digit
        refine ⟨(sign read).1, (sign read).2, by simpa using letter, by simpa using digit, ?_⟩
        intro quote
        exact absurd (by simpa [IsQuote] using quote) plain

/-- A character that is no blank, starts no closer and no operand is where no piece can stand. -/
theorem operandPiece_blocks {char : Char} {rest : List Char} {problem : LexProblem}
    (visible : isBlank char = false) (unclosed : ¬ tag.closer <+: char :: rest)
    (read : operandPiece tag char rest = .problem problem) :
    Blocks (.tag tag) (char :: rest) problem := by
  obtain ⟨rfl, sign, letter, digit, quoted⟩ := operandPiece_problem read
  refine .stray fun piece after stands held => ?_
  have first {other : Char} {more : List Char} (starts : other :: more <+: char :: rest) :
      other = char := (List.cons_prefix_cons.1 starts).1
  -- Each kind of piece is excluded by the character that it starts with.
  cases stands with
  | closing => exact unclosed held
  | @blanks _ text full each =>
    obtain ⟨other, more, rfl⟩ := List.exists_cons_of_ne_nil full
    obtain rfl := first held
    simp [each _ (List.mem_cons_self ..)] at visible
  | @name _ word identifier =>
    obtain ⟨other, more, same, starts, _⟩ := identifier
    obtain rfl := first (same ▸ held)
    simp [starts] at letter
  | @integer _ digits full each =>
    obtain ⟨other, more, rfl⟩ := List.exists_cons_of_ne_nil full
    obtain rfl := first held
    simp [each _ (List.mem_cons_self ..)] at digit
  | @float _ whole part full _ each =>
    obtain ⟨other, more, rfl⟩ := List.exists_cons_of_ne_nil full
    obtain rfl := first held
    simp [each _ (List.mem_cons_self ..)] at digit
  | @string _ mark body value quote spells =>
    obtain ⟨same, more, rfl⟩ := List.cons_prefix_cons.1 held
    have other : mark ≠ '\\' := by rcases quote with rfl | rfl <;> decide
    have split := spells.split other more
    rw [List.append_assoc, ← same] at quoted
    exact absurd (quoted quote) (by simp [split])
  | sign found =>
    obtain rfl := first held
    simp [found] at sign

/-- What keeps a text from being cut into pieces stands in front of the rest of it. -/
theorem nextPiece_blocks {zone : Zone} {text : List Char} {problem : LexProblem}
    (read : nextPiece zone text = .problem problem) : Blocks zone text problem := by
  -- In text only a comment without an end blocks. In a tag it is the end of the text, or a
  -- character that is no blank, no closer and no operand.
  cases zone with
  | text =>
    simp only [nextPiece, nextInText] at read
    split at read <;> try cases read
    split at read <;> cases read
    exact .comment (splitComment_none (by assumption))
  | tag tag =>
    simp only [nextPiece, nextInTag] at read
    split at read
    · cases read
      exact .tag tag
    · split at read
      · cases read
      · rename_i visible
        split at read
        · cases read
        · rename_i apart
          exact operandPiece_blocks (by simpa using visible)
            (fun held => apart (List.isPrefixOf_iff_prefix.2 held)) read

end

/-- The pieces of a text follow one another up to its end, or up to what keeps it from being cut. -/
theorem piecesOf_follow (zone : Zone) (text : List Char) :
    ∃ last rest, Follow zone (piecesOf zone text).1 last ∧
      spellingOf (piecesOf zone text).1 ++ rest = text ∧
      ((piecesOf zone text).2 = none → last = .text ∧ rest = []) ∧
      ∀ problem, (piecesOf zone text).2 = some problem → Blocks last rest problem := by
  -- The induction is on what is left of the text behind each piece.
  fun_induction piecesOf zone text with
  | case1 zone text read =>
    exact ⟨zone, text, .done, rfl, fun _ => nextPiece_finished read, fun _ other => nomatch other⟩
  | case2 zone text problem read =>
    refine ⟨zone, text, .done, rfl, fun other => (nomatch other), fun other same => ?_⟩
    cases same
    exact nextPiece_blocks read
  | case3 zone text piece after rest read pieces ending found ih =>
    rw [found] at ih
    obtain ⟨last, left, follow, joined, finished, blocked⟩ := ih
    refine ⟨last, left, .piece (nextPiece_stands read) follow, ?_, finished, blocked⟩
    rw [← nextPiece_append read, ← joined]
    simp [spellingOf]

/-- The tokens of pieces from a place on, with the end of input behind them. -/
def closedTokens (place : Position) (pieces : List Piece) : List Token :=
  placeTokens place pieces ++ [⟨.endOfInput, "", place.after (spellingOf pieces)⟩]

/-- A source is cut into the tokens of its pieces if they make it up. -/
theorem tokenize_eq_ok {source : String} {tokens : List Token} :
    tokenize source = .ok tokens ↔ (piecesOf .text source.toList).2 = none ∧
      tokens = closedTokens .start (piecesOf .text source.toList).1 := by
  -- The pieces are placed as they were cut; an ending that is a problem gives no tokens at all.
  rcases cut : piecesOf .text source.toList with ⟨pieces, ending⟩
  cases ending <;> simp [tokenize, cut, closedTokens, eq_comm]

/-- A source is not cut into tokens if its pieces end at a problem, which is where they end. -/
theorem tokenize_eq_error {source : String} {fault : LexFault} :
    tokenize source = .error fault ↔
      (piecesOf .text source.toList).2 = some fault.problem ∧
        fault.position = Position.start.after (spellingOf (piecesOf .text source.toList).1) := by
  -- The problem stands where the pieces before it end.
  rcases cut : piecesOf .text source.toList with ⟨pieces, ending⟩
  cases ending with
  | none => simp [tokenize, cut]
  | some problem =>
    obtain ⟨found, place⟩ := fault
    simp [tokenize, cut, eq_comm]

end Stencil
