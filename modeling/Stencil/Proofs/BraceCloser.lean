import Stencil.Proofs.SourceSeam

/-! Text inside a tag is cut alike in both kinds of tag, up to two closing braces that meet. -/

namespace Stencil

/-- Whether two closing braces meet outside of strings, behind a quote that is open. -/
def bracesMeet : Option Char → List Char → Bool
  | _, [] => false
  | none, '}' :: '}' :: _ => true
  | none, char :: rest =>
    bracesMeet (if char = '\'' || char = '"' then some char else none) rest
  -- A backslash keeps the next character, which may be the quote.
  | some quote, '\\' :: _ :: rest => bracesMeet (some quote) rest
  | some quote, char :: rest => bracesMeet (if char = quote then none else some quote) rest

/-- The piece that a closing brace is. -/
def closingBrace : Piece :=
  .plain .braceClose ['}']

/-- The piece that closes a tag. -/
def Tag.closing (tag : Tag) : Piece :=
  .plain tag.closeKind tag.closer

section

variable {rest tail : List Char}

/-- A character that is no brace and no quote is passed over. -/
theorem bracesMeet_other {char : Char} (brace : char ≠ '}') (single : char ≠ '\'')
    (double : char ≠ '"') (rest : List Char) :
    bracesMeet none (char :: rest) = bracesMeet none rest := by
  -- Outside of a literal the scan stops only at a brace or a quote, and this character is neither.
  rw [bracesMeet]
  · simp [single, double]
  · intro more same
    exact absurd same brace

/-- A brace is passed over, unless another one follows. -/
theorem bracesMeet_brace (apart : rest.head? ≠ some '}') :
    bracesMeet none ('}' :: rest) = bracesMeet none rest := by
  -- A lone closing brace decides nothing: the scan looks for two in a row.
  rw [bracesMeet]
  · simp
  · rintro more _ rfl
    simp at apart

/-- Characters of a kind that has no brace and no quotes are passed over. -/
theorem bracesMeet_others {accepts : Char → Bool} {text : List Char}
    (each : ∀ char ∈ text, accepts char = true) (brace : accepts '}' = false)
    (single : accepts '\'' = false) (double : accepts '"' = false) (rest : List Char) :
    bracesMeet none (text ++ rest) = bracesMeet none rest := by
  -- None of the accepted characters is a brace or a quote, so the scan passes them one at a time.
  induction text with
  | nil => rfl
  | cons char text ih =>
    obtain ⟨accepted, others⟩ := List.forall_mem_cons.1 each
    have other {sign : Char} (refused : accepts sign = false) : char ≠ sign := by
      rintro rfl
      rw [refused] at accepted
      contradiction
    rw [List.cons_append, bracesMeet_other (other brace) (other single) (other double)]
    exact ih others

/-- The characters of a name start one or continue one. -/
theorem IsIdentifier.each {word : String} (identifier : IsIdentifier word) :
    ∀ char ∈ word.toList, (isNameStart char || isNameChar char) = true := by
  -- The first character starts a name, every later one continues it.
  obtain ⟨first, others, same, starts, continues⟩ := identifier
  intro char member
  rw [same] at member
  rcases List.mem_cons.1 member with rfl | member
  · simp [starts]
  · simp [List.all_eq_true.1 continues char member]

/-- A string is passed over, with whatever braces there are in it. -/
theorem bracesMeet_string {quote : Char} {body value : List Char} (other : quote ≠ '\\')
    (spells : SpellsBetween quote body value) (rest : List Char) :
    bracesMeet (some quote) (body ++ quote :: rest) = bracesMeet none rest := by
  -- Induction on how the body is spelled. A pair behind a backslash is skipped as a whole by the
  -- scan, like by the reading of the literal, so both reach the same closing quote.
  induction spells with
  | ended =>
    rw [List.nil_append, bracesMeet]
    · simp
    · rintro kept more rfl
      exact absurd rfl other
  | @plain char body value apart plain _ ih =>
    rw [List.cons_append, bracesMeet]
    · rw [if_neg apart, ih]
    · rintro kept more rfl
      exact absurd rfl plain
  | kept _ _ ih => rw [List.cons_append, List.cons_append, bracesMeet, ih]
  | broken _ ih => rw [List.cons_append, List.cons_append, bracesMeet, ih]

/-- A blank behind a text makes no braces meet. -/
theorem bracesMeet_trailing (quote : Option Char) (text : List Char) :
    bracesMeet quote (text ++ [' ']) = bracesMeet quote text := by
  fun_induction bracesMeet quote text with
  | case1 quote => cases quote <;> rfl
  | case2 => rfl
  | case3 char rest apart ih =>
    rw [List.cons_append, bracesMeet]
    · exact ih
    · -- What stands behind the character is what stood there before, or the blank.
      intro more same behind
      cases rest with
      | nil => simp at behind
      | cons next rest =>
        obtain ⟨rfl, _⟩ := List.cons.inj behind
        exact apart rest same rfl
  | case4 quote kept rest ih => exact ih
  | case5 quote char rest apart ih =>
    cases rest with
    | nil =>
      -- A backslash at the end keeps the blank, and no brace is left either way.
      by_cases slash : char = '\\'
      · subst slash
        split <;> rfl
      · have passed : bracesMeet (some quote) [char, ' '] =
            bracesMeet (if char = quote then none else some quote) [' '] := by
          rw [bracesMeet]
          intro kept more same
          exact absurd same slash
        exact passed.trans ih
    | cons next rest =>
      rw [List.cons_append, bracesMeet]
      · exact ih
      · intro kept more same
        exact (apart next rest same rfl).elim

/-- A piece inside a tag is passed over, unless it is a brace and another one follows. -/
theorem Stands.passedOver {tag : Tag} {piece : Piece} (stands : Stands (.tag tag) piece (.tag tag))
    (apart : ¬ ['}', '}'] <+: piece.spelling ++ rest) :
    bracesMeet none (piece.spelling ++ rest) = bracesMeet none rest := by
  cases stands with
  | blanks _ each => exact bracesMeet_others each (by decide) (by decide) (by decide) rest
  | name identifier =>
    exact bracesMeet_others identifier.each (by decide) (by decide) (by decide) rest
  | integer _ each => exact bracesMeet_others each (by decide) (by decide) (by decide) rest
  | @float _ whole part _ _ each behind =>
    have point : bracesMeet none ('.' :: (part ++ rest)) = bracesMeet none (part ++ rest) :=
      bracesMeet_other (by decide) (by decide) (by decide) _
    have front := bracesMeet_others each (by decide) (by decide) (by decide) ('.' :: (part ++ rest))
    have back := bracesMeet_others behind (by decide) (by decide) (by decide) rest
    simpa [Piece.plain, Piece.spelling] using front.trans (point.trans back)
  | @string _ quote body value mark spells =>
    have opens : bracesMeet none (quote :: (body ++ [quote] ++ rest)) =
        bracesMeet (some quote) (body ++ [quote] ++ rest) := by
      rcases mark with rfl | rfl <;> rfl
    have other : quote ≠ '\\' := by rcases mark with rfl | rfl <;> decide
    have closes := bracesMeet_string other spells rest
    rw [List.append_cons] at closes
    exact opens.trans closes
  | @sign _ char kind found =>
    by_cases brace : char = '}'
    · subst brace
      refine bracesMeet_brace fun second => apart ?_
      obtain ⟨more, rfl⟩ := List.head?_eq_some_iff.1 second
      exact ⟨more, rfl⟩
    · -- Quotes are no signs.
      refine bracesMeet_other brace ?_ ?_ rest <;> rintro rfl <;> cases found

/-- An operand is cut off alike in either kind of tag. -/
theorem operandPiece_otherTag {tag : Tag} {char : Char} {piece : Piece} {after : Zone}
    (read : operandPiece tag char rest = .piece piece after tail) (other : Tag) :
    after = .tag tag ∧ operandPiece other char rest = .piece piece (.tag other) tail := by
  -- The reading of an operand asks for the tag only to stay inside of it: each branch that ends in
  -- a piece is the same branch for the other tag.
  have sign (read : signPiece tag char rest = .piece piece after tail) :
      after = .tag tag ∧ signPiece other char rest = .piece piece (.tag other) tail := by
    unfold signPiece at read ⊢
    split at read
    · cases read
      exact ⟨rfl, rfl⟩
    · cases read
  unfold operandPiece at read ⊢
  split at read
  · rename_i quoted
    rw [if_pos quoted]
    split at read
    · cases read
      exact ⟨rfl, rfl⟩
    · exact sign read
  · rename_i bare
    rw [if_neg bare]
    split at read
    · rename_i starts
      cases read
      exact ⟨rfl, by rw [if_pos starts]⟩
    · rename_i other
      rw [if_neg other]
      split at read
      · rename_i digit
        cases read
        refine ⟨rfl, ?_⟩
        rw [if_pos digit]
        rfl
      · rename_i digit
        rw [if_neg digit]
        exact sign read

/-- What is cut off in a block tag is cut off in an output, where no two braces close that. -/
theorem nextInTag_output {text : List Char} {piece : Piece}
    (read : nextInTag .block text = .piece piece (.tag .block) rest)
    (apart : ¬ ['}', '}'] <+: text) :
    nextInTag .output text = .piece piece (.tag .output) rest := by
  -- Both kinds of tags skip blanks and read operands alike. They differ in the closer alone, and
  -- the text does not open with the one of an output.
  unfold nextInTag at read ⊢
  split at read
  · cases read
  · rename_i char text
    split at read
    · rename_i blank
      cases read
      simp only [blank, if_true]
    · rename_i visible
      split at read
      · cases read
      · have unclosed : Tag.output.closer.isPrefixOf (char :: text) = false :=
          Bool.eq_false_iff.2 fun held => apart (List.isPrefixOf_iff_prefix.1 held)
        simp only [visible, unclosed]
        exact (operandPiece_otherTag read .output).2

/-- Blanks are one piece up to the next character that is none. -/
theorem nextInTag_blanks (tag : Tag) {spelling other : List Char} (full : spelling ≠ [])
    (each : ∀ char ∈ spelling, isBlank char = true)
    (stops : ∀ char, other.head? = some char → isBlank char = false) :
    nextInTag tag (spelling ++ other) = .piece (.gap spelling) (.tag tag) other := by
  -- The first blank opens the gap; the run behind it is all of the spelling, since the text that
  -- follows starts with no blank.
  obtain ⟨first, others, rfl⟩ := List.exists_cons_of_ne_nil full
  have blank : isBlank first = true := each first (by simp)
  have behind : ∀ char ∈ others, isBlank char = true := fun char member =>
    each char (by simp [member])
  have taken : (others ++ other).takeWhile isBlank = others ∧
      (others ++ other).dropWhile isBlank = other := by
    rw [List.takeWhile_append_of_pos behind, List.dropWhile_append_of_pos behind]
    cases other with
    | nil => simp
    | cons char other => simp [stops char rfl]
  simp only [List.cons_append, nextInTag, blank, if_true, taken.1, taken.2]

/-- The text ends in a blank, if it does not end at once. -/
def EndsBlank (text : List Char) : Prop :=
  ∀ char, text.getLast? = some char → char = ' '

/-- What is left of a text that ends in a blank does so too. -/
theorem EndsBlank.behind {front text : List Char} (ends : EndsBlank (front ++ text)) :
    EndsBlank text := by
  -- The last character of a part at the end is the last character of the whole.
  intro char last
  refine ends char ?_
  rw [List.getLast?_append, last]
  rfl

/-- Behind what is left of such a text, what follows makes no difference to what is in front. -/
theorem EndsBlank.looksAlike {text : List Char} (ends : EndsBlank text) (some : text ≠ [])
    (first second : List Char) : LooksAlike (text ++ first) (text ++ second) := by
  cases text with
  | nil => contradiction
  | cons char text =>
    refine ⟨rfl, fun point => ?_⟩
    cases text with
    | nil =>
      -- The only character is the blank, and no point.
      have blank := ends char rfl
      simp [blank] at point
    | cons next text => rfl

/-- No text ends in a blank whose characters are of a kind that has no blank. -/
theorem not_endsBlank {text : List Char} {accepts : Char → Bool} (full : text ≠ [])
    (each : ∀ char ∈ text, accepts char = true) (none : accepts ' ' = false) :
    ¬EndsBlank text := by
  -- The last character is one of the accepted ones, and a blank is not.
  intro ends
  have last := List.getLast?_eq_some_getLast full
  have accepted := each _ (List.mem_of_getLast? last)
  rw [ends _ last, none] at accepted
  cases accepted

/-- Only a gap ends in a blank. -/
theorem Stands.endsBlank {tag : Tag} {piece : Piece} (stands : Stands (.tag tag) piece (.tag tag))
    (ends : EndsBlank piece.spelling) :
    ∃ text, piece = .gap text ∧ text ≠ [] ∧ ∀ char ∈ text, isBlank char = true := by
  -- Every operand ends in a character of its own alphabet: a letter, a digit, a quote, a sign. None
  -- of these is a blank, which leaves the gap.
  have some := stands.full
  cases stands with
  | @blanks _ text full each => exact ⟨text, rfl, full, each⟩
  | name identifier => exact absurd ends (not_endsBlank some identifier.each (by decide))
  | integer full each => exact absurd ends (not_endsBlank full each (by decide))
  | @float _ whole part _ full _ each =>
    have joined : EndsBlank ((whole ++ ['.']) ++ part) := by
      rw [List.append_assoc]
      exact ends
    exact absurd joined.behind (not_endsBlank full each (by decide))
  | @string _ quote body value mark spells =>
    have joined : EndsBlank ((quote :: body) ++ [quote]) := ends
    obtain rfl := joined.behind quote rfl
    rcases mark with mark | mark <;> cases mark
  | @sign _ char kind found =>
    obtain rfl := ends char rfl
    cases found

/-- Whatever does not close a tag stays in it. -/
theorem nextInTag_leads {tag : Tag} {text : List Char} {piece : Piece} {after : Zone}
    (read : nextInTag tag text = .piece piece after rest) (inside : piece ≠ tag.closing) :
    after = .tag tag := by
  -- Only the closer leads out of a tag: blanks and operands stay inside of it.
  unfold nextInTag at read
  split at read
  · cases read
  · split at read
    · cases read
      rfl
    · split at read
      · cases read
        exact absurd rfl inside
      · exact (operandPiece_otherTag read tag).1

/-- Braces that start a text with a blank at its end start it without what stands behind it. -/
theorem EndsBlank.prefix_of_append {text behind : List Char} (ends : EndsBlank text)
    (some : text ≠ []) (held : ['}', '}'] <+: text ++ behind) : ['}', '}'] <+: text := by
  -- The two braces could reach past the text only if its last character were the first brace, and
  -- that character would have to be a blank.
  obtain ⟨more, same⟩ := held
  cases text with
  | nil => contradiction
  | cons first text =>
    obtain ⟨rfl, others⟩ := List.cons.inj same
    cases text with
    | nil =>
      have blank := ends _ rfl
      revert blank
      decide
    | cons second text =>
      obtain ⟨rfl, _⟩ := List.cons.inj others
      exact ⟨text, rfl⟩

/-- In front of what closes a block a piece is cut off as in front of what closes an output. -/
theorem nextInTag_swap {text : List Char} {piece : Piece}
    (read : nextInTag .block (piece.spelling ++ (text ++ Tag.block.closer)) =
      .piece piece (.tag .block) (text ++ Tag.block.closer))
    (ends : EndsBlank (piece.spelling ++ text)) (apart : ¬ ['}', '}'] <+: piece.spelling ++ text) :
    nextInTag .output (piece.spelling ++ (text ++ Tag.output.closer)) =
      .piece piece (.tag .output) (text ++ Tag.output.closer) := by
  have stands := nextInTag_stands read
  have full := stands.full
  have some : piece.spelling ++ text ≠ [] := by simp [full]
  refine nextInTag_output ?_ fun held => apart ?_
  · by_cases none : text = []
    · -- Only blanks can stand at the end, and neither closer goes on with them.
      subst none
      rw [List.append_nil] at ends
      obtain ⟨blanks, rfl, filled, each⟩ := stands.endsBlank ends
      refine nextInTag_blanks .block filled each ?_
      rintro char first
      cases first
      decide
    · refine nextInTag_alike read (ends.behind.looksAlike none _ _) fun held => ?_
      -- Both characters of a closer stand within what the two texts have in common.
      have long : Tag.block.closer.length ≤ (piece.spelling ++ text).length := by
        have first := List.length_pos_iff.2 full
        have second := List.length_pos_iff.2 none
        rw [List.length_append]
        exact Nat.add_le_add first second
      rw [← List.append_assoc] at held ⊢
      exact (List.prefix_of_prefix_length_le held (List.prefix_append _ _) long).trans
        (List.prefix_append _ _)
  · rw [← List.append_assoc] at held
    exact ends.prefix_of_append some held

/-- The first of the pieces of a text is what comes next in it. -/
theorem piecesOf_eq_cons {zone : Zone} {text : List Char} {piece : Piece} {pieces : List Piece}
    {ending : Option LexProblem} (cut : piecesOf zone text = (piece :: pieces, ending)) :
    ∃ after rest, nextPiece zone text = .piece piece after rest ∧
      piecesOf after rest = (pieces, ending) := by
  -- The first step of the cutting is the only one that puts a piece at the front.
  rw [piecesOf] at cut
  split at cut
  · cases cut
  · cases cut
  · rename_i first after rest read
    cases cut
    exact ⟨after, rest, read, rfl⟩

/-- What closes a tag is followed by the pieces of the text behind it. -/
theorem piecesOf_closer (tag : Tag) (rest : List Char) :
    piecesOf (.tag tag) (tag.closer ++ rest) =
      (tag.closing :: (piecesOf .text rest).1, (piecesOf .text rest).2) :=
  -- Read the closer as one piece, then cut the text behind it.
  piecesOf_cons (show nextPiece (.tag tag) _ = _ from nextInTag_closer tag rest)

/-- A closing brace in a block is a piece by itself. -/
theorem nextPiece_brace (rest : List Char) :
    nextPiece (.tag .block) ('}' :: rest) = .piece closingBrace (.tag .block) rest :=
  rfl

/-- A text that ends in a blank is cut alike in both kinds of tag, unless two closing braces meet in
it: the first two that do are pieces of a block, and close an output. -/
theorem piecesOf_output {inside : List Piece} {text : List Char}
    (spelled : spellingOf inside = text)
    (cut : piecesOf (.tag .block) (text ++ Tag.block.closer) =
      (inside ++ [Tag.block.closing], none))
    (opened : ∀ piece ∈ inside, piece ≠ Tag.block.closing) (ends : EndsBlank text) :
    (bracesMeet none text = false ∧
      piecesOf (.tag .output) (text ++ Tag.output.closer) =
        (inside ++ [Tag.output.closing], none)) ∨
    (bracesMeet none text = true ∧ ∃ front back others ending,
      inside = front ++ closingBrace :: closingBrace :: back ∧
      piecesOf (.tag .output) (text ++ Tag.output.closer) =
        (front ++ Tag.output.closing :: others, ending)) := by
  induction inside generalizing text with
  | nil =>
    subst spelled
    have closes := piecesOf_closer .output []
    rw [piecesOf_nil, List.append_nil] at closes
    exact .inl ⟨rfl, closes⟩
  | cons piece inside ih =>
    subst spelled
    obtain ⟨after, rest, read, behind⟩ := piecesOf_eq_cons cut
    have start : spellingOf (piece :: inside) = piece.spelling ++ spellingOf inside := rfl
    rw [start] at read ends ⊢
    rw [List.append_assoc] at read ⊢
    obtain rfl := nextInTag_leads read (opened piece (by simp))
    obtain rfl : rest = spellingOf inside ++ Tag.block.closer :=
      List.append_cancel_left (nextPiece_append read)
    by_cases meets : ['}', '}'] <+: piece.spelling ++ spellingOf inside
    · -- Both braces are pieces of the block, and close the output together.
      obtain ⟨more, same⟩ := meets
      have shown : piece.spelling ++ (spellingOf inside ++ Tag.block.closer) =
          '}' :: '}' :: (more ++ Tag.block.closer) := by
        rw [← List.append_assoc, ← same]
        rfl
      rw [shown] at read
      obtain ⟨rfl, _, left⟩ := Next.piece.inj ((nextPiece_brace _).symm.trans read)
      rw [← left, piecesOf_cons (nextPiece_brace _)] at behind
      obtain ⟨others, ended⟩ := Prod.mk.inj behind
      cases inside with
      | nil => cases (List.cons.inj others).1
      | cons second back =>
        obtain ⟨rfl, _⟩ := List.cons.inj others
        exact .inr ⟨rfl, [], back, _, _, rfl, piecesOf_closer .output _⟩
    · have swapped := piecesOf_cons (show nextPiece (.tag .output) _ = _ from
        nextInTag_swap read ends meets)
      have passed := (nextInTag_stands read).passedOver meets
      rw [swapped, passed]
      rcases ih rfl behind (fun other member => opened other (by simp [member])) ends.behind with
        ⟨apart, alike⟩ | ⟨met, front, back, others, ending, rfl, cutOff⟩
      · exact .inl ⟨apart, by rw [alike]; rfl⟩
      · exact .inr ⟨met, piece :: front, back, others, ending, rfl, by rw [cutOff]; rfl⟩

end

end Stencil
