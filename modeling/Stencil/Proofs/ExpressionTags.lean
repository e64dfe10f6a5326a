import Stencil.Proofs.BraceCloser
import Stencil.Proofs.ShownLines
import Stencil.Proofs.SourceParts

/-! An expression as it is read in a block tag and in an output. -/

namespace Stencil

/-- The source of a view under an expression. -/
def viewSource (expression : String) : String :=
  "\x7b% view " ++ expression ++ " %\x7d"

/-- The source of an output of an expression. -/
def outputSource (expression : String) : String :=
  "\x7b\x7b " ++ expression ++ " \x7d\x7d"

/-- An expression between the blanks around it. -/
def apart (expression : String) : List Char :=
  ' ' :: (expression.toList ++ [' '])

/-- A place behind the keyword of a view, as far behind what opens an output. -/
def outputPlace : Position → Position :=
  Position.behind ⟨1, -5⟩

section

variable {words others : List Token} {node : Node}

/-- An expression goes on behind another one only with a member. -/
theorem Derives.extended {token : Token} {whole part : Node}
    (long : Derives (words ++ token :: others) (.expression whole))
    (short : Derives words (.expression part)) : token.kind = .dot := by
  -- Both would be read from the same tokens, and leave different ones.
  by_contra other
  let final : Token := ⟨.endOfInput, "", .start⟩
  have first := expression_read short other (others ++ [final])
  have second := expression_read long (show final.kind ≠ .dot by decide) []
  rw [List.append_assoc, List.cons_append, first] at second
  have left := congrArg List.length (Prod.mk.inj (Except.ok.inj second)).2
  simp at left

/-- Tokens that are derived from a phrase are numbers where they say so. -/
theorem Derives.numeric {phrase : Phrase} (derived : Derives words phrase) :
    ∀ token ∈ words, token.IsNumeric := by
  have plain {token : Token} {kind : TokenKind} (same : token.kind = kind)
      (integer : kind ≠ .integer) (float : kind ≠ .float) : token.IsNumeric :=
    ⟨fun other => absurd (same.symm.trans other) integer,
      fun other => absurd (same.symm.trans other) float⟩
  have key {token : Token} {key : Node} (named : token.KeyOf key) : token.IsNumeric := by
    cases named with
    | word kind =>
      exact kind.elim (plain · (by decide) (by decide)) (plain · (by decide) (by decide))
    | integer kind read => exact ⟨fun _ => by simp [read], by simp [kind]⟩
  -- The two rules for numbers read them, and all other tokens that are named are no numbers.
  induction derived with
  | integer kind read => simp [Token.IsNumeric, kind, read]
  | float kind read => simp [Token.IsNumeric, kind, read]
  | string kind | name kind => simpa using plain kind (by decide) (by decide)
  | wordTrue named | wordFalse named =>
    simpa using plain (Token.isWord_kind named) (by decide) (by decide)
  | wordNull named =>
    simpa using plain (named.elim Token.isWord_kind Token.isWord_kind) (by decide) (by decide)
  | list opened _ closed ih | hash opened _ closed ih =>
    have first := plain opened (by decide) (by decide)
    have last := plain closed (by decide) (by decide)
    simpa [first, last, or_imp, forall_and] using ih
  | primary _ ih | lastItem _ ih => exact ih
  | member _ dotted named ih =>
    have dot := plain dotted (by decide) (by decide)
    have name := plain named (by decide) (by decide)
    simpa [dot, name, or_imp, forall_and] using ih
  | noItems | noPairs => simp
  | item _ separated _ ih rest =>
    have comma := plain separated (by decide) (by decide)
    simpa [comma, or_imp, forall_and] using And.intro ih rest
  | lastPair named assigned _ ih =>
    have colon := plain assigned (by decide) (by decide)
    simpa [key named, colon, or_imp, forall_and] using ih
  | pair named assigned _ separated _ ih rest =>
    have colon := plain assigned (by decide) (by decide)
    have comma := plain separated (by decide) (by decide)
    simpa [key named, colon, comma, or_imp, forall_and] using And.intro ih rest

/-- A view without data is an expression behind its keyword. -/
theorem DerivesTag.viewed {keyword : Token} {place : Position} {variant : Option String}
    (tag : DerivesTag (keyword :: words) (.component place node variant none false))
    (named : keyword.isWord "view") : Derives words (.expression node) := by
  -- The tokens are those of either tag, and only one of them starts with the keyword.
  generalize same : keyword :: words = tokens at tag
  cases tag with
  | component other =>
    obtain ⟨rfl, _⟩ := List.cons.inj same
    have value := (Token.isWord_value named).symm.trans (Token.isWord_value other)
    exact absurd value (by decide)
  | view _ found supplied ended =>
    obtain ⟨_, rfl⟩ := List.cons.inj same
    -- Neither data nor a word behind it is left.
    cases supplied
    cases ended
    simpa using found

/-- A body may start with the output of an expression. -/
theorem DerivesBody.output {opening closing : Token} {nodes : List Node}
    (opened : opening.kind = .outputOpen) (found : Derives words (.expression node))
    (closed : closing.kind = .outputClose) (after : DerivesBody others nodes) :
    DerivesBody (opening :: (words ++ closing :: others))
      (.output opening.position node :: nodes) := by
  -- One node in front of the body, with the brackets of the lists moved.
  have body := DerivesBody.node (.output opened found closed) after
  simpa using body

/-- A body that starts with a tag has its node, and those of what stands behind the tag. -/
theorem DerivesBody.tag {opening closing : Token} {operands rest : List Token}
    {nodes : List Node} (body : DerivesBody (opening :: (operands ++ closing :: rest)) nodes)
    (tag : Tag) (opened : opening.kind = tag.openKind)
    (each : ∀ token ∈ operands, token.kind ∈ operandKinds)
    (closed : closing.kind = tag.closeKind) :
    ∃ node behind, nodes = node :: behind ∧ DerivesBody rest behind ∧
      DerivesNode (opening :: (operands ++ [closing])) node := by
  rcases body.first with ⟨_, same, _⟩ | ⟨words, others, node, behind, same, rfl, found, after⟩
  · -- The end of input would be the only token.
    simp at same
  · rcases found.framed with ⟨token, rfl, kind, _⟩ | ⟨start, between, stop, rfl, _, inside, shut⟩
    · obtain ⟨rfl, _⟩ := List.cons.inj same
      exact absurd (opened.symm.trans kind) tag.openKind_ne.1
    · simp only [List.cons_append, List.append_assoc, List.nil_append, List.cons.injEq] at same
      obtain ⟨rfl, tails⟩ := same
      -- The tag that is read ends at the first token that is no operand, too.
      obtain ⟨rfl, rfl, rfl⟩ := operands_unique tails each inside
        (closed ▸ tag.closeKind_operand) shut
      exact ⟨node, behind, rfl, after, found⟩

/-- A body without nodes has no tokens but the end of input. -/
theorem DerivesBody.noTokens {final : Token} (body : DerivesBody (words ++ [final]) []) :
    words = [] := by
  -- A body without nodes is the end token alone.
  rcases body.first with ⟨_, same, _⟩ | ⟨_, _, _, _, _, none, _⟩
  · exact (List.append_inj' (same.trans (List.nil_append _).symm) rfl).1
  · cases none

/-- A block tag is what stands between what opens and what closes it. -/
theorem DerivesNode.block_inside {opening closing : Token}
    (found : DerivesNode (opening :: (words ++ [closing])) node)
    (opened : opening.kind = .blockOpen) : DerivesTag words node := by
  -- The first token tells the production, and the last one where its inside ends.
  generalize same : opening :: (words ++ [closing]) = tokens at found
  cases found with
  | data => simp at same
  | output other =>
    obtain ⟨rfl, _⟩ := List.cons.inj same
    exact absurd (opened.symm.trans other) (by decide)
  | block _ tag =>
    obtain ⟨_, tails⟩ := List.cons.inj same
    obtain ⟨rfl, _⟩ := List.append_inj' tails rfl
    exact tag

/-- An output has an expression between what opens and what closes it. -/
theorem DerivesNode.output_inside {opening closing : Token}
    (found : DerivesNode (opening :: (words ++ [closing])) node)
    (opened : opening.kind = .outputOpen) : ∃ whole, Derives words (.expression whole) := by
  -- As for a block, with the other kind of first token.
  generalize same : opening :: (words ++ [closing]) = tokens at found
  cases found with
  | data => simp at same
  | @output _ _ _ whole _ found =>
    obtain ⟨_, tails⟩ := List.cons.inj same
    obtain ⟨rfl, _⟩ := List.append_inj' tails rfl
    exact ⟨whole, found⟩
  | block other =>
    obtain ⟨rfl, _⟩ := List.cons.inj same
    exact absurd (opened.symm.trans other) (by decide)

/-- What stays inside a tag is no closer of it. -/
theorem Stands.inside {tag : Tag} {piece : Piece} (stands : Stands (.tag tag) piece (.tag tag)) :
    piece ≠ tag.closing := by
  -- What closes a tag leads back to plain text.
  rintro rfl
  cases tag <;> cases stands

/-- The pieces of a tag up to the end of a text are those inside, its closer, and pieces of text. -/
theorem Follow.closed {tag : Tag} {pieces : List Piece} {zone last : Zone}
    (follow : Follow zone pieces last) (tagged : zone = .tag tag) (ended : last = .text) :
    ∃ inside behind, pieces = inside ++ tag.closing :: behind ∧
      (∀ piece ∈ inside, Stands (.tag tag) piece (.tag tag)) ∧ Follow .text behind .text := by
  -- The induction is on the pieces, all of which stand in the tag up to its closer.
  induction follow with
  | done =>
    subst tagged
    cases ended
  | @piece zone next last piece pieces stands rest ih =>
    subst tagged ended
    -- Only what closes the tag leads out of it.
    have stays (same : next = .tag tag) : ∃ inside behind,
        piece :: pieces = inside ++ tag.closing :: behind ∧
        (∀ piece ∈ inside, Stands (.tag tag) piece (.tag tag)) ∧ Follow .text behind .text := by
      subst same
      obtain ⟨inside, behind, rfl, each, follow⟩ := ih rfl rfl
      exact ⟨piece :: inside, behind, rfl, List.forall_mem_cons.2 ⟨stands, each⟩, follow⟩
    cases stands with
    | closing => exact ⟨[], pieces, rfl, by simp, rest⟩
    | blanks | name | integer | float | string | sign => exact stays rfl

/-- The tokens of pieces inside a tag are operands. -/
theorem placeTokens_operands {tag : Tag} {inside : List Piece}
    (each : ∀ piece ∈ inside, Stands (.tag tag) piece (.tag tag)) (place : Position) :
    ∀ token ∈ placeTokens place inside, token.kind ∈ operandKinds := by
  -- Inside of a tag stand gaps and operands, and only the operands give tokens.
  induction inside generalizing place with
  | nil => simp [placeTokens]
  | cons piece inside ih =>
    obtain ⟨stands, others⟩ := List.forall_mem_cons.1 each
    cases piece with
    | gap spelling => exact ih others _
    | token kind spelling value =>
      refine List.forall_mem_cons.2 ⟨?_, ih others _⟩
      cases stands with
      | name | integer | float | string => simp [operandKinds]
      | sign found => exact (punctuation_operand found).1

/-- Plain text without tokens is empty, or ends with a comment. -/
theorem Follow.comments {pieces : List Piece} {zone last : Zone} (follow : Follow zone pieces last)
    (plain : zone = .text) {place : Position} (none : placeTokens place pieces = []) :
    pieces = [] ∨ ∃ front, spellingOf pieces = front ++ ['#', '}'] := by
  induction follow generalizing place with
  | done => exact .inl rfl
  | @piece zone next last piece pieces stands rest ih =>
    subst plain
    cases stands with
    -- Data and what opens a tag would be tokens.
    | data | opening => cases none
    | @comment body =>
      refine .inr ?_
      rcases ih rfl none with rfl | ⟨front, spelled⟩
      · exact ⟨'{' :: '#' :: body, by simp [spellingOf, Piece.spelling]⟩
      · exact ⟨('{' :: '#' :: (body ++ ['#', '}'])) ++ front,
          by rw [List.append_assoc, ← spelled]; rfl⟩

/-- Behind a closer that ends a text stand no pieces, if none of them is a token. -/
theorem Follow.atEnd {tag : Tag} {inside behind : List Piece} {text : List Char}
    (follow : Follow .text behind .text) {place : Position}
    (none : placeTokens place behind = [])
    (joined : spellingOf (inside ++ tag.closing :: behind) = text ++ tag.closer) :
    behind = [] ∧ spellingOf inside = text := by
  have spelled : spellingOf (inside ++ tag.closing :: behind) =
      spellingOf inside ++ tag.closer ++ spellingOf behind := by
    simp [spellingOf, Tag.closing, Piece.plain, Piece.spelling]
  rw [spelled] at joined
  rcases follow.comments rfl none with rfl | ⟨front, commented⟩
  · rw [show spellingOf [] = [] from rfl, List.append_nil] at joined
    exact ⟨rfl, List.append_cancel_right joined⟩
  · -- The text would end like a comment, and no closer does.
    have last : ['#', '}'] = tag.closer := by
      rw [commented, ← List.append_assoc] at joined
      exact (List.append_inj' joined (by cases tag <;> rfl)).2
    cases tag <;> cases last

end

/-- Reading stops at no integer if all of those in front of some token can be read, and if no
template starts with the tokens up to that one. -/
theorem ofTokens_notInteger {front behind : List Token} {final : Token} {text : String}
    (numeric : ∀ token ∈ front ++ [final], token.IsNumeric)
    (unfinished : ∀ others nodes, ¬ DerivesBody (front ++ final :: others) nodes) :
    Node.ofTokens (front ++ final :: behind) ≠ .error (.notInteger text) := by
  intro stopped
  obtain ⟨before, token, after, split, named, goes, _⟩ :=
    bodyWithin_stopped (map_eq_error.1 stopped) nofun
  cases named with
  | integer kind unread =>
    have outside : token ∉ front ++ [final] := fun member => by
      have read := (numeric token member).1 kind
      simp [unread] at read
    -- The token is behind all of these, so that another integer there would be read.
    have beyond : ∃ more, before = front ++ final :: more := by
      rw [List.append_cons] at split
      rcases List.append_eq_append_iff.1 split with ⟨more, same, _⟩ | ⟨more, same, left⟩
      · exact ⟨more, by rw [same, ← List.append_cons]⟩
      · cases more with
        | nil => exact ⟨[], by rw [List.append_nil] at same; exact same.symm⟩
        | cons first more =>
          obtain ⟨rfl, _⟩ := List.cons.inj left
          exact absurd (by simp [same]) outside
    obtain ⟨more, rfl⟩ := beyond
    obtain ⟨others, nodes, body⟩ := goes [⟨.integer, "0", .start⟩] (.integer _ rfl (by decide))
    rw [List.append_assoc, List.cons_append] at body
    exact unfinished _ nodes body

/-- The pieces of a view: what opens it, its keyword, and what stands behind the keyword. -/
theorem piecesOf_view (expression : String) :
    piecesOf .text (viewSource expression).toList =
      (.plain .blockOpen Tag.block.opener :: .gap [' '] :: nameWord "view" ::
          (piecesOf (.tag .block) (apart expression ++ Tag.block.closer)).1,
        (piecesOf (.tag .block) (apart expression ++ Tag.block.closer)).2) := by
  obtain ⟨behind, whole⟩ : ∃ behind, apart expression ++ Tag.block.closer = ' ' :: behind :=
    ⟨_, rfl⟩
  have spelled : (viewSource expression).toList = Tag.block.opener ++
      ' ' :: ((nameWord "view").spelling ++ (apart expression ++ Tag.block.closer)) := by
    simp [viewSource, apart, Tag.opener, Tag.mark, Tag.closer, nameWord, Piece.plain,
      Piece.spelling]
  have word : (nameWord "view").ReadsIn .block := nameWord_reads ⟨'v', _, rfl, rfl, rfl⟩
  -- One piece after the other is cut off in front of the rest.
  have named : nextPiece (.tag .block) ((nameWord "view").spelling ++ ' ' :: behind) =
      .piece (nameWord "view") (.tag .block) (' ' :: behind) := word.2 behind
  have spaced : nextPiece (.tag .block) (' ' :: ((nameWord "view").spelling ++ ' ' :: behind)) =
      .piece (.gap [' ']) (.tag .block) ((nameWord "view").spelling ++ ' ' :: behind) :=
    nextInTag_space (show isBlank 'v' = false from rfl) _
  have opened : nextPiece .text
      (Tag.block.opener ++ ' ' :: ((nameWord "view").spelling ++ ' ' :: behind)) =
      .piece (.plain .blockOpen Tag.block.opener) (.tag .block)
        (' ' :: ((nameWord "view").spelling ++ ' ' :: behind)) := nextInText_opener .block _
  rw [spelled, whole, piecesOf_cons opened, piecesOf_cons spaced, piecesOf_cons named]

/-- The pieces of an output: what opens it, and what stands behind that. -/
theorem piecesOf_outputSource (expression : String) :
    piecesOf .text (outputSource expression).toList =
      (.plain .outputOpen Tag.output.opener ::
          (piecesOf (.tag .output) (apart expression ++ Tag.output.closer)).1,
        (piecesOf (.tag .output) (apart expression ++ Tag.output.closer)).2) := by
  -- The opener is read as one piece, and what follows is cut inside of the tag.
  have spelled : (outputSource expression).toList =
      Tag.output.opener ++ (apart expression ++ Tag.output.closer) := by
    simp [outputSource, apart, String.toList_append, Tag.opener, Tag.mark, Tag.closer]
  rw [spelled]
  exact piecesOf_cons (show nextPiece .text _ = _ from nextInText_opener .output _)

/-- The tokens of a view: what opens it, its keyword, those inside, and those behind. -/
theorem closedTokens_view (inside behind : List Piece) :
    closedTokens .start (.plain .blockOpen Tag.block.opener :: .gap [' '] :: nameWord "view" ::
        (inside ++ behind)) =
      ⟨.blockOpen, "\x7b%", ⟨1, 0⟩⟩ :: ((⟨.name, "view", ⟨1, 3⟩⟩ :: placeTokens ⟨1, 7⟩ inside) ++
        closedTokens (Position.after ⟨1, 7⟩ (spellingOf inside)) behind) := by
  -- The first three pieces have places that can be written down, and the others follow from where
  -- those end.
  rw [List.cons_append, ← closedTokens_append]
  rfl

/-- The tokens of an output: what opens it, those inside, and those behind. -/
theorem closedTokens_output (inside behind : List Piece) :
    closedTokens .start (.plain .outputOpen Tag.output.opener :: (inside ++ behind)) =
      ⟨.outputOpen, "\x7b\x7b", ⟨1, 0⟩⟩ :: (placeTokens ⟨1, 2⟩ inside ++
        closedTokens (Position.after ⟨1, 2⟩ (spellingOf inside)) behind) := by
  -- The opener has its place, and the others follow from where it ends.
  rw [← closedTokens_append]
  rfl

/-- The tokens of an expression in an output are those in a view, at another place. -/
theorem placeTokens_output (pieces : List Piece) :
    placeTokens ⟨1, 2⟩ pieces =
      (placeTokens ⟨1, 7⟩ pieces).map (Token.moved outputPlace) := by
  -- The word of the block tag and the blank before it take five columns, which the output does
  -- without.
  have counted : 1 ≤ (⟨1, 7⟩ : Position).line := Int.le_refl 1
  exact placeTokens_behind ⟨1, -5⟩ counted pieces

/-- What a view is read from is cut into the pieces of an expression, and what closes the tag. -/
theorem readTemplate_view {name file : Option String} {expression : String} {place : Position}
    {node : Node} {variant : Option String}
    (read : readTemplate name file (viewSource expression) =
      .ok (.template .start [.component place node variant none false])) :
    ∃ inside, piecesOf (.tag .block) (apart expression ++ Tag.block.closer) =
        (inside ++ [Tag.block.closing], none) ∧
      (∀ piece ∈ inside, Stands (.tag .block) piece (.tag .block)) ∧
      spellingOf inside = apart expression ∧
      Derives (placeTokens ⟨1, 7⟩ inside) (.expression node) := by
  obtain ⟨finished, nodes, same, body⟩ := readTemplate_eq_ok.1 read
  obtain ⟨_, rfl⟩ := Node.template.inj same
  rw [piecesOf_view] at finished body
  -- The text behind the keyword is cut to its end, so the tag is closed somewhere.
  obtain ⟨_, _, follow, joined, ended, _⟩ :=
    piecesOf_follow (.tag .block) (apart expression ++ Tag.block.closer)
  obtain ⟨rfl, rfl⟩ := ended finished
  obtain ⟨inside, behind, cut, each, text⟩ := follow.closed rfl rfl
  rw [cut, List.append_nil] at joined
  rw [cut, closedTokens_view] at body
  have operands := placeTokens_operands each ⟨1, 7⟩
  obtain ⟨_, _, one, after, found⟩ :=
    body.tag .block rfl (List.forall_mem_cons.2 ⟨by decide, operands⟩) rfl
  obtain ⟨rfl, rfl⟩ := List.cons.inj one
  -- The component is the only node, so nothing stands behind its tag.
  obtain ⟨rfl, spelled⟩ := text.atEnd after.noTokens joined
  exact ⟨inside, Prod.ext cut finished, each, spelled, (found.block_inside rfl).viewed rfl⟩

/-- The blanks around an expression make no braces meet. -/
theorem bracesMeet_apart (expression : String) :
    bracesMeet none (apart expression) = bracesMeet none expression.toList := by
  -- The blanks in front and behind are neither braces nor quotes.
  rw [apart, bracesMeet_other (by decide) (by decide) (by decide), bracesMeet_trailing]

/-- Between its blanks an expression ends in one. -/
theorem endsBlank_apart (expression : String) : EndsBlank (apart expression) := by
  -- The expression is set between two blanks, and the second one is its last character.
  intro char last
  have ended : apart expression = (' ' :: expression.toList) ++ [' '] := rfl
  rw [ended, List.getLast?_append] at last
  exact (Option.some.inj last).symm

/-- An expression of a view is the expression of an output, at another place, unless two closing
braces meet in it outside of strings: those close the output, which is then refused. -/
theorem readTemplate_output {name file : Option String} {expression : String} {place : Position}
    {node : Node} {variant : Option String}
    (read : readTemplate name file (viewSource expression) =
      .ok (.template .start [.component place node variant none false])) :
    (bracesMeet none expression.toList = false →
      readTemplate name file (outputSource expression) =
        .ok (.template .start [.output .start (node.moved outputPlace)])) ∧
    (bracesMeet none expression.toList = true →
      ∃ fault, readTemplate name file (outputSource expression) =
        .error (.diagnostic (.malformed fault))) := by
  obtain ⟨inside, cut, each, spelled, viewed⟩ := readTemplate_view read
  have derived := viewed.moved outputPlace
  rw [← placeTokens_output] at derived
  have cases := piecesOf_output spelled cut (fun piece member => (each piece member).inside)
    (endsBlank_apart expression)
  rw [bracesMeet_apart] at cases
  rcases cases with ⟨apart, alike⟩ | ⟨met, front, back, others, ending, rfl, cutOff⟩
  · refine ⟨fun _ => ?_, fun met => absurd (met.symm.trans apart) (by decide)⟩
    refine readTemplate_eq_ok.2 ?_
    rw [piecesOf_outputSource, alike, closedTokens_output]
    exact ⟨rfl, _, rfl, .output rfl derived rfl (.ended rfl)⟩
  · refine ⟨fun apart => absurd (met.symm.trans apart) (by decide), fun _ => ?_⟩
    rw [placeTokens_append] at derived
    obtain ⟨closing, behind, shut, pieces⟩ : ∃ closing behind, closing.kind = .outputClose ∧
        closedTokens .start (piecesOf .text (outputSource expression).toList).1 =
          (⟨.outputOpen, "\x7b\x7b", ⟨1, 0⟩⟩ :: placeTokens ⟨1, 2⟩ front) ++
            closing :: behind := by
      let place := Position.after ⟨1, 2⟩ (spellingOf front)
      refine ⟨⟨.outputClose, "\x7d\x7d", place⟩,
        closedTokens (place.after Tag.output.closer) others, rfl, ?_⟩
      rw [piecesOf_outputSource, cutOff, closedTokens_output]
      rfl
    have operands : ∀ token ∈ placeTokens ⟨1, 2⟩ front, token.kind ∈ operandKinds :=
      placeTokens_operands (fun piece member => each piece (List.mem_append_left _ member)) _
    -- What is in front of the braces would be an expression, and would go on with a brace.
    have unfinished (others : List Token) (nodes : List Node) :
        ¬ DerivesBody ((⟨.outputOpen, "\x7b\x7b", ⟨1, 0⟩⟩ :: placeTokens ⟨1, 2⟩ front) ++
          closing :: others) nodes := fun body => by
      rw [List.cons_append] at body
      obtain ⟨_, _, _, _, found⟩ := body.tag .output rfl operands shut
      obtain ⟨part, short⟩ := found.output_inside rfl
      cases derived.extended short
    cases result : readTemplate name file (outputSource expression) with
    | ok tree =>
      obtain ⟨_, nodes, _, body⟩ := readTemplate_eq_ok.1 result
      exact absurd (pieces ▸ body) (unfinished behind nodes)
    | error failure =>
      rcases readTemplate_eq_error.1 result with ⟨_, _, rfl⟩ | ⟨_, _, _, _, rfl⟩ |
        ⟨tokens, text, tokenized, stopped, _⟩
      · exact ⟨_, rfl⟩
      · exact ⟨_, rfl⟩
      · -- The integers in front of the braces are read in the view, and those behind are not
        -- looked at.
        obtain ⟨_, rfl⟩ := tokenize_eq_ok.1 tokenized
        rw [pieces] at stopped
        refine absurd stopped (ofTokens_notInteger (fun token member => ?_) unfinished)
        simp only [List.mem_append, List.mem_cons, List.not_mem_nil, or_false] at member
        rcases member with (rfl | inside) | rfl
        · exact ⟨nofun, nofun⟩
        · exact derived.numeric token (List.mem_append_left _ inside)
        · simp [Token.IsNumeric, shut]

/-- A hash in a hash, from its first brace on. -/
def nestedHash (place : Position) : Node :=
  .hash place [.constant ⟨place.line, place.column + 1⟩ (.text "a")]
    [.hash ⟨place.line, place.column + 4⟩
      [.constant ⟨place.line, place.column + 5⟩ (.text "b")]
      [.constant ⟨place.line, place.column + 8⟩ (.int 1)]]

/-- A hash in a hash is output if its closing braces stand apart, and refused if they meet. -/
theorem readTemplate_output_nested :
    readTemplate none none (outputSource "{a: {b: 1} }") =
        .ok (.template .start [.output .start (nestedHash ⟨1, 3⟩)]) ∧
      ∃ fault, readTemplate none none (outputSource "{a: {b: 1}}") =
        .error (.diagnostic (.malformed fault)) := by
  -- One blank between the braces decides, and in a block tag both spellings are read.
  have apart : readTemplate none none (viewSource "{a: {b: 1} }") =
      .ok (.template .start [.component ⟨1, 3⟩ (nestedHash ⟨1, 8⟩) none none false]) := by cbv
  have met : readTemplate none none (viewSource "{a: {b: 1}}") =
      .ok (.template .start [.component ⟨1, 3⟩ (nestedHash ⟨1, 8⟩) none none false]) := by cbv
  exact ⟨(readTemplate_output apart).1 (by decide), (readTemplate_output met).2 (by decide)⟩

/-- A hash in a hash is read in a view, and refused in an output. -/
theorem nested_hash_refused :
    readTemplate none none (viewSource "{a: {b: 1}}") =
        .ok (.template .start [.component ⟨1, 3⟩ (nestedHash ⟨1, 8⟩) none none false]) ∧
      ∀ tree, readTemplate none none (outputSource "{a: {b: 1}}") ≠ .ok tree := by
  -- The reading is evaluated: two closing braces end the tag before the outer hash is closed.
  have refused : (readTemplate none none (outputSource "{a: {b: 1}}")).isOk = false := by
    decide +kernel
  refine ⟨by cbv, fun tree read => ?_⟩
  rw [read] at refused
  cases refused

end Stencil
