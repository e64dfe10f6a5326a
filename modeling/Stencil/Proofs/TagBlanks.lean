import Mathlib
import Stencil.Proofs.MovedReading
import Stencil.Proofs.SeveredPieces
import Stencil.Proofs.SourceParts

/-! Blanks between the tokens of a tag move what stands behind them, and change nothing else. -/

namespace Stencil

/-- A place is in front of another one: on an earlier line, or further left on the same line. -/
def Position.IsBefore (place other : Position) : Prop :=
  place.line < other.line ∨ (place.line = other.line ∧ place.column < other.column)

instance (place other : Position) : Decidable (place.IsBefore other) :=
  inferInstanceAs (Decidable (_ ∨ _))

/-- Where a place is when the text from an origin on starts at a target instead: what is in front of
the origin stays, and only what is on its line is moved within a line. -/
def Position.pushed (origin target place : Position) : Position :=
  if place.IsBefore origin then place
  else
    { line := place.line + (target.line - origin.line)
      -- On later lines the columns are counted from their own start.
      column :=
        if place.line = origin.line then place.column + (target.column - origin.column)
        else place.column }

/-- Where a place is once a text is inserted behind another one. -/
def Position.inserting (before inserted : List Char) : Position → Position :=
  (Position.start.after before).pushed (Position.start.after (before ++ inserted))

section

variable {origin target place : Position}

/-- A place does not get in front of another one by a stretch of text. -/
theorem Position.not_isBefore_after (behind : ¬ place.IsBefore origin) (text : List Char) :
    ¬ (place.after text).IsBefore origin := by
  -- Reading only moves forward, one character at a time.
  induction text generalizing place with
  | nil => exact behind
  | cons char text ih =>
    refine ih ?_
    unfold IsBefore at behind ⊢
    split <;> (simp only; omega)

/-- A place is in front of every one that a text leads to from it. -/
theorem Position.isBefore_after {text : List Char} (full : text ≠ []) :
    place.IsBefore (place.after text) := by
  obtain ⟨char, rest, rfl⟩ := List.exists_cons_of_ne_nil full
  -- One character leads behind the place, and the others do not lead back.
  have step : place.IsBefore (place.after [char]) := by
    by_cases feed : char = '\n'
    · refine .inl ?_
      simp only [after, feed, if_true]
      omega
    · refine .inr ?_
      simp only [after, feed, if_false, true_and]
      omega
  have kept : ¬ ((place.after [char]).after rest).IsBefore (place.after [char]) :=
    not_isBefore_after (by simp [IsBefore]) rest
  show place.IsBefore ((place.after [char]).after rest)
  unfold IsBefore at step kept ⊢
  omega

/-- What stands behind an origin moves on in the same way from its target. -/
theorem Position.pushed_after (behind : ¬ place.IsBefore origin) (text : List Char) :
    origin.pushed target (place.after text) = (origin.pushed target place).after text := by
  induction text generalizing place with
  | nil => rfl
  | cons char text ih =>
    have later := not_isBefore_after behind [char]
    have step : origin.pushed target (place.after [char]) =
        (origin.pushed target place).after [char] := by
      simp only [pushed, if_neg later, if_neg behind]
      unfold IsBefore at behind
      -- A line feed leads to the first column, which is behind the origin only on a later line.
      by_cases feed : char = '\n'
      · simp only [after, feed, if_true, Position.mk.injEq]
        refine ⟨by omega, ?_⟩
        rw [if_neg (by omega)]
      · simp only [after, feed, if_false, Position.mk.injEq, true_and]
        split <;> omega
    show origin.pushed target ((place.after [char]).after text) = _
    rw [ih later, step]
    rfl

/-- An origin is moved to its target, and what a text leads to from it to what it leads to there. -/
theorem Position.pushed_from (text : List Char) :
    origin.pushed target (origin.after text) = target.after text := by
  -- At the origin itself the push is the distance to the target, and every later place keeps it.
  have self : ¬ origin.IsBefore origin := by simp [IsBefore]
  have line : origin.line + (target.line - origin.line) = target.line := by omega
  have column : origin.column + (target.column - origin.column) = target.column := by omega
  rw [pushed_after self]
  simp only [pushed, if_neg self, if_true, line, column]

end

/-- Tokens stand in front of where the text of their pieces ends. -/
theorem placeTokens_before {pieces : List Piece} (full : ∀ piece ∈ pieces, piece.spelling ≠ [])
    (place : Position) (more : List Char) :
    ∀ token ∈ placeTokens place pieces,
      token.position.IsBefore (place.after (spellingOf pieces ++ more)) := by
  -- Induction on the pieces: each spells something, so the place behind all of them lies after the
  -- one where a token starts.
  induction pieces generalizing place with
  | nil => simp [placeTokens]
  | cons piece pieces ih =>
    obtain ⟨some, others⟩ := List.forall_mem_cons.1 full
    have spelled : spellingOf (piece :: pieces) ++ more =
        piece.spelling ++ (spellingOf pieces ++ more) := by simp [spellingOf]
    have rest := ih others (place.after piece.spelling)
    rw [← Position.after_append] at rest
    rw [spelled]
    cases piece with
    | gap spelling => exact rest
    | token kind spelling value =>
      exact List.forall_mem_cons.2
        ⟨Position.isBefore_after (List.append_ne_nil_of_left_ne_nil some _), rest⟩

section

variable {tag : Tag} {blanks text : List Char}

/-- Characters that may stand in a name are not blank. -/
theorem isBlank_nameChar {char : Char} (named : isNameChar char = true) : isBlank char = false := by
  by_cases starts : isNameStart char = true
  · have range := toNat_nameStart starts
    exact isBlank_visible (by omega) (by omega)
  · -- What does not start a name is a digit.
    simp only [isNameStart, Bool.or_eq_true, not_or] at starts
    have digit : char.isDigit = true := by
      simpa [isNameChar, Char.isAlphanum, starts] using named
    have range := toNat_digit digit
    exact isBlank_visible (by omega) (by omega)

/-- A blank severs the tokens of a tag. -/
theorem severs_blank {char : Char} (blank : isBlank char = true) : Severs char where
  -- A blank is no letter, no digit and none of the two signs that could be joined with what stands
  -- before them.
  word := by
    cases named : isNameChar char with
    | false => rfl
    | true => exact absurd (isBlank_nameChar named) (by simp [blank])
  digit := by
    cases digit : isDecimal char with
    | false => rfl
    | true => exact absurd (isBlank_decimal digit) (by simp [blank])
  point := by
    rintro rfl
    exact absurd blank (by decide)
  brace := by
    rintro rfl
    exact absurd blank (by decide)

/-- Only a gap runs into a blank. -/
theorem Piece.runsInto_blank {kind : TokenKind} {spelling value : List Char} {char : Char}
    (blank : isBlank char = true) (more : List Char) :
    (Piece.token kind spelling value).runsInto (char :: more) = false := by
  -- Each kind of token runs on only into characters of its own, and a blank severs all of them.
  have severs := severs_blank blank
  cases kind <;> simp [Piece.runsInto, severs.word, severs.digit, severs.point]

variable (tag) in
/-- Blanks in front of what is no blank leave no token. -/
theorem closedTokens_gap (each : ∀ char ∈ blanks, isBlank char = true)
    (stops : ∀ char, text.head? = some char → isBlank char = false) (place : Position) :
    (piecesOf (.tag tag) (blanks ++ text)).2 = (piecesOf (.tag tag) text).2 ∧
      closedTokens place (piecesOf (.tag tag) (blanks ++ text)).1 =
        closedTokens (place.after blanks) (piecesOf (.tag tag) text).1 := by
  -- The blanks are one gap. It gives no token, and what follows is placed behind it.
  by_cases none : blanks = []
  · subst none
    exact ⟨rfl, rfl⟩
  · have read : nextPiece (.tag tag) (blanks ++ text) = .piece (.gap blanks) (.tag tag) text :=
      nextInTag_blanks tag none each stops
    rw [piecesOf_cons read]
    refine ⟨rfl, ?_⟩
    have spelled : spellingOf (.gap blanks :: (piecesOf (.tag tag) text).1) =
        blanks ++ spellingOf (piecesOf (.tag tag) text).1 := rfl
    simp only [closedTokens, placeTokens, spelled, Position.after_append]

variable (tag) in
/-- Blanks leave no token in front of any text of a tag. -/
theorem closedTokens_blanks (each : ∀ char ∈ blanks, isBlank char = true) (place : Position) :
    (piecesOf (.tag tag) (blanks ++ text)).2 = (piecesOf (.tag tag) text).2 ∧
      closedTokens place (piecesOf (.tag tag) (blanks ++ text)).1 =
        closedTokens (place.after blanks) (piecesOf (.tag tag) text).1 := by
  -- The blanks that the text starts with are one gap with those in front of it.
  have own : ∀ char ∈ text.takeWhile isBlank, isBlank char = true := fun _ member =>
    List.mem_takeWhile_imp member
  have stops : ∀ char, (text.dropWhile isBlank).head? = some char → isBlank char = false := by
    intro char first
    obtain ⟨more, left⟩ := List.head?_eq_some_iff.1 first
    exact head_dropWhile left
  have joined : ∀ char ∈ blanks ++ text.takeWhile isBlank, isBlank char = true :=
    List.forall_mem_append.2 ⟨each, own⟩
  obtain ⟨ending, tokens⟩ := closedTokens_gap tag joined stops place
  obtain ⟨endingOwn, tokensOwn⟩ := closedTokens_gap tag own stops (place.after blanks)
  rw [List.append_assoc, List.takeWhile_append_dropWhile] at ending tokens
  rw [List.takeWhile_append_dropWhile] at endingOwn tokensOwn
  exact ⟨ending.trans endingOwn.symm, by rw [tokens, tokensOwn, Position.after_append]⟩

end

/-- Two parts of a source meet inside a tag and between two tokens: the last one in front of where
they meet opens the tag, or is an operand of it, and only blanks may stand behind it there. -/
inductive MeetInTag (before after : List Char) : Prop
  | between {front back : List Piece} {kind : TokenKind} {spelling value blanks : List Char}
    (cut : (piecesOf .text (before ++ after)).1 = front ++ .token kind spelling value :: back)
    (spelled : before = spellingOf (front ++ [.token kind spelling value]) ++ blanks)
    (blank : ∀ char ∈ blanks, isBlank char = true)
    (inside : kind ∈ operandKinds ∨ ∃ tag : Tag, kind = tag.openKind)

/-- What opens a tag leads into it, and an operand stays in it. -/
theorem Stands.leadsInside {zone last : Zone} {kind : TokenKind} {spelling value : List Char}
    (stands : Stands zone (.token kind spelling value) last)
    (inside : kind ∈ operandKinds ∨ ∃ tag : Tag, kind = tag.openKind) :
    ∃ tag : Tag, last = .tag tag := by
  -- Only data and closers lead out of a tag, and neither is an operand or an opener.
  cases stands with
  | data =>
    rcases inside with operand | ⟨tag, same⟩
    · exact absurd operand (by decide)
    · cases tag <;> cases same
  | opening tag => exact ⟨tag, rfl⟩
  | closing tag =>
    rcases inside with operand | ⟨other, same⟩
    · exact absurd operand tag.closeKind_operand
    · cases tag <;> cases other <;> cases same
  | name | integer | float | string | sign => exact ⟨_, rfl⟩

/-- The zone that pieces lead to is the one that the last of them leads to. -/
theorem Follow.last {zone last : Zone} {front : List Piece} {piece : Piece}
    (follow : Follow zone (front ++ [piece]) last) : ∃ next, Stands next piece last := by
  -- Induction on the pieces before the last one.
  induction front generalizing zone with
  | nil =>
    cases follow with
    | piece stands none =>
      cases none
      exact ⟨_, stands⟩
  | cons first front ih =>
    cases follow with
    | piece _ others => exact ih others

section

variable {before after inserted : List Char}

/-- Pieces that lead to a place between two tokens of a tag are cut off again if blanks are inserted
there, and the tag goes on behind them. -/
theorem MeetInTag.pieces (meet : MeetInTag before after) :
    ∃ (front : List Piece) (blanks : List Char) (tag : Tag),
      before = spellingOf front ++ blanks ∧ (∀ char ∈ blanks, isBlank char = true) ∧
      (∀ piece ∈ front, piece.spelling ≠ []) ∧ front ≠ [] ∧
      ∀ inserted : List Char, (∀ char ∈ inserted, isBlank char = true) →
        piecesOf .text (before ++ (inserted ++ after)) =
          (front ++ (piecesOf (.tag tag) (blanks ++ (inserted ++ after))).1,
            (piecesOf (.tag tag) (blanks ++ (inserted ++ after))).2) := by
  obtain ⟨cut, spelled, blank, inside⟩ := meet
  rename_i front back kind spelling value blanks
  rw [List.append_cons] at cut
  obtain ⟨last, rest, cutsOff⟩ := piecesOf_cutsOff cut
  obtain ⟨next, stands⟩ := cutsOff.follow.last
  obtain ⟨tag, rfl⟩ := stands.leadsInside inside
  refine ⟨_, blanks, tag, spelled, blank, cutsOff.follow.full, by simp, fun inserted each => ?_⟩
  have text (behind : List Char) : before ++ behind =
      spellingOf (front ++ [.token kind spelling value]) ++ (blanks ++ behind) := by
    rw [spelled, List.append_assoc]
  obtain rfl : rest = blanks ++ after :=
    List.append_cancel_left (cutsOff.joined.trans (text after))
  cases gap : blanks ++ inserted with
  | nil =>
    obtain ⟨rfl, rfl⟩ := List.append_eq_nil_iff.1 gap
    exact cutsOff.pieces
  | cons char more =>
    -- What stands behind the last of the pieces is a blank now.
    have first : isBlank char = true := by
      refine List.forall_mem_append.2 ⟨blank, each⟩ char ?_
      rw [gap]
      exact List.mem_cons_self
    have again := (cutsOff.severed (severs_blank first) (more ++ after) fun piece last => by
      obtain rfl : Piece.token kind spelling value = piece := by simpa using last
      exact Piece.runsInto_blank first _).pieces
    have behind : blanks ++ (inserted ++ after) = char :: (more ++ after) := by
      rw [← List.append_assoc, gap]
      rfl
    rw [text, behind]
    exact again

/-- Blanks between the tokens of a tag move what stands behind them, and change nothing else. -/
theorem MeetInTag.tokens (meet : MeetInTag before after)
    (each : ∀ char ∈ inserted, isBlank char = true) :
    (piecesOf .text (before ++ (inserted ++ after))).2 = (piecesOf .text (before ++ after)).2 ∧
      closedTokens .start (piecesOf .text (before ++ (inserted ++ after))).1 =
        (closedTokens .start (piecesOf .text (before ++ after)).1).map
          (Token.moved (Position.inserting before inserted)) := by
  obtain ⟨front, blanks, tag, spelled, blank, full, _, pieces⟩ := meet.pieces
  have whole := pieces [] (by simp)
  rw [List.nil_append] at whole
  have joined : ∀ char ∈ blanks ++ inserted, isBlank char = true :=
    List.forall_mem_append.2 ⟨blank, each⟩
  -- Behind the pieces in front, the blanks leave no token, whether more of them stand there or not.
  obtain ⟨ending, tokens⟩ := @closedTokens_blanks tag _ after blank
    (Position.start.after (spellingOf front))
  obtain ⟨endingMoved, tokensMoved⟩ := @closedTokens_blanks tag _ after joined
    (Position.start.after (spellingOf front))
  have reached : (Position.start.after (spellingOf front)).after (blanks ++ inserted) =
      Position.start.after (before ++ inserted) := by
    rw [spelled, ← Position.after_append, List.append_assoc]
  rw [← Position.after_append, ← spelled] at tokens
  rw [List.append_assoc] at endingMoved
  rw [List.append_assoc, reached] at tokensMoved
  -- The tokens in front stay, since they stand in front of where the blanks are inserted.
  have kept : (placeTokens .start front).map (Token.moved (Position.inserting before inserted)) =
      placeTokens .start front := by
    refine (List.map_congr_left fun token member => ?_).trans (List.map_id _)
    have earlier := placeTokens_before full .start blanks token member
    rw [← spelled] at earlier
    simp only [Token.moved, Position.inserting, Position.pushed, if_pos earlier, id]
  rw [pieces inserted each, whole]
  refine ⟨endingMoved.trans ending.symm, ?_⟩
  simp only [closedTokens_append, List.map_append, kept, tokens, tokensMoved]
  rw [Position.inserting, closedTokens_moved fun text => Position.pushed_from text]

end

section

variable {before after inserted : List Char} {tokens : List Token}

end

end Stencil
