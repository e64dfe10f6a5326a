import Stencil.Proofs.MovedTrees
import Stencil.Proofs.SourceSeam
import Stencil.Proofs.TokenShape

/-! Two sources one behind the other are read as the nodes of both, but for the data between. -/

namespace Stencil

section

variable {words tokens : List Token}

/-- The key of a hash is an operand. -/
theorem Token.KeyOf.operand {token : Token} {key : Node} (named : token.KeyOf key) :
    token.kind ∈ operandKinds := by
  -- A key is written as a name, a string or an integer.
  cases named with
  | word kind => rcases kind with kind | kind <;> simp [kind, operandKinds]
  | integer kind => simp [kind, operandKinds]

/-- What is derived inside a tag is made of operands. -/
theorem Derives.operands {phrase : Phrase} (derived : Derives words phrase) :
    ∀ token ∈ words, token.kind ∈ operandKinds := by
  -- Induction on the derivation: each production adds brackets, dots, colons and commas around what
  -- its parts are made of, and all of these are operands.
  induction derived with
  | string kind | integer kind | float kind | name kind => simp [kind, operandKinds]
  | wordTrue named | wordFalse named => simp [Token.isWord_kind named, operandKinds]
  | wordNull named =>
    simp [named.elim Token.isWord_kind Token.isWord_kind, operandKinds]
  | list opened _ closed ih | hash opened _ closed ih =>
    simp only [List.cons_append, List.forall_mem_cons, List.forall_mem_append]
    exact ⟨by simp [opened, operandKinds], ih, by simp [closed, operandKinds]⟩
  | primary _ ih | lastItem _ ih => exact ih
  | member _ dotted named ih =>
    simp only [List.forall_mem_append, List.forall_mem_cons]
    exact ⟨ih, by simp [dotted, operandKinds], by simp [named, operandKinds]⟩
  | noItems | noPairs => simp
  | item _ separated _ ih ihOthers =>
    simp only [List.forall_mem_append, List.forall_mem_cons]
    exact ⟨ih, by simp [separated, operandKinds], ihOthers⟩
  | lastPair named assigned _ ih =>
    simp only [List.forall_mem_cons]
    exact ⟨named.operand, by simp [assigned, operandKinds], ih⟩
  | pair named assigned _ separated _ ih ihOthers =>
    simp only [List.cons_append, List.forall_mem_append, List.forall_mem_cons]
    exact ⟨named.operand, by simp [assigned, operandKinds], ih,
      by simp [separated, operandKinds], ihOthers⟩

/-- A block tag is made of operands. -/
theorem DerivesTag.operands {node : Node} (tag : DerivesTag words node) :
    ∀ token ∈ words, token.kind ∈ operandKinds := by
  -- The keywords are names, and the values between them are phrases.
  have word {token : Token} {text : String} (named : token.isWord text) :
      token.kind ∈ operandKinds := by
    simp [Token.isWord_kind named, operandKinds]
  have only {words : List Token} {only : Bool} (ended : DerivesOnly words only) :
      ∀ token ∈ words, token.kind ∈ operandKinds := by
    cases ended with
    | absent => simp
    | present named => simpa using word named
  cases tag with
  | component named found varied supplied ended =>
    simp only [List.forall_mem_append, List.forall_mem_cons]
    refine ⟨word named, ⟨⟨found.operands, ?_⟩, ?_⟩, only ended⟩
    · cases varied with
      | none => simp
      | some kind => simp [kind, operandKinds]
    · cases supplied with
      | none => simp
      | some keyword found => exact List.forall_mem_cons.2 ⟨word keyword, found.operands⟩
  | view named found supplied ended =>
    simp only [List.forall_mem_append, List.forall_mem_cons]
    refine ⟨word named, ⟨found.operands, ?_⟩, only ended⟩
    cases supplied with
    | none => simp
    | some _ found => exact found.operands

/-- A node of a body is one token of data, or operands between what opens and what closes a tag. -/
theorem DerivesNode.framed {node : Node} (found : DerivesNode words node) :
    (∃ token, words = [token] ∧ token.kind = .data ∧
        node = .data token.position token.value) ∨
      ∃ opening operands closing, words = opening :: (operands ++ [closing]) ∧
        opening.kind ≠ .data ∧ (∀ token ∈ operands, token.kind ∈ operandKinds) ∧
        closing.kind ∉ operandKinds := by
  -- Text is one token. An output or a block stands between its braces, and what it holds is made of
  -- operands.
  cases found with
  | data kind => exact .inl ⟨_, rfl, kind, rfl⟩
  | output opened found closed =>
    exact .inr ⟨_, _, _, rfl, by simp [opened], found.operands, by simp [closed, operandKinds]⟩
  | block opened tag closed =>
    exact .inr ⟨_, _, _, rfl, by simp [opened], tag.operands, by simp [closed, operandKinds]⟩

/-- A body is at its end, or starts with a node. -/
theorem DerivesBody.first {nodes : List Node} (body : DerivesBody tokens nodes) :
    (∃ token, tokens = [token] ∧ token.kind = .endOfInput ∧ nodes = []) ∨
      ∃ words others node rest, tokens = words ++ others ∧ nodes = node :: rest ∧
        DerivesNode words node ∧ DerivesBody others rest := by
  -- The body is empty at the end token, otherwise it opens with a node.
  cases body with
  | ended kind => exact .inl ⟨_, rfl, kind, rfl⟩
  | node found rest => exact .inr ⟨_, _, _, _, rfl, rfl, found, rest⟩

/-- The first token that is no operand is at one place only. -/
theorem operands_unique {first second behind after : List Token} {closing ending : Token}
    (same : first ++ closing :: behind = second ++ ending :: after)
    (each : ∀ token ∈ first, token.kind ∈ operandKinds)
    (others : ∀ token ∈ second, token.kind ∈ operandKinds)
    (closed : closing.kind ∉ operandKinds) (ended : ending.kind ∉ operandKinds) :
    first = second ∧ closing = ending ∧ behind = after := by
  -- The first token that is no operand ends both sides. Before it the lists agree token by token.
  induction first generalizing second with
  | nil =>
    cases second with
    | nil => exact ⟨rfl, List.cons.inj same⟩
    | cons token second =>
      obtain ⟨rfl, _⟩ := List.cons.inj same
      exact absurd (others closing (by simp)) closed
  | cons token first ih =>
    cases second with
    | nil =>
      obtain ⟨rfl, _⟩ := List.cons.inj same
      exact absurd (each token (by simp)) ended
    | cons other second =>
      obtain ⟨rfl, tails⟩ := List.cons.inj same
      obtain ⟨rfl, rest⟩ := ih tails (fun token member => each token (by simp [member]))
        fun token member => others token (by simp [member])
      exact ⟨rfl, rest⟩

/-- What closes a tag is no operand. -/
theorem Tag.closeKind_operand (tag : Tag) : tag.closeKind ∉ operandKinds := by
  -- Closers are listed apart from operands.
  cases tag <;> decide

/-- What opens a tag is no data, and does not end the input. -/
theorem Tag.openKind_ne (tag : Tag) : tag.openKind ≠ .data ∧ tag.openKind ≠ .endOfInput := by
  -- Openers are kinds of their own.
  cases tag <;> decide

/-- A body is read in two parts where tokens have the shape of a source up to somewhere. -/
theorem DerivesBody.split {front back : List Token} {final : Token} {nodes : List Node}
    (tagged : IsTagged (front ++ [final])) (body : DerivesBody (front ++ back) nodes) :
    ∃ first others, nodes = first ++ others ∧ DerivesBody back others ∧
      ∀ more rest, DerivesBody more rest → DerivesBody (front ++ more) (first ++ rest) := by
  generalize shape : front ++ [final] = tokens at tagged
  -- The induction is on the shape; each stretch of data and each tag is a node.
  induction tagged generalizing front nodes with
  | ended =>
    cases front with
    | nil => exact ⟨[], nodes, rfl, body, fun _ _ rest => rest⟩
    | cons first front => simp at shape
  | data kind _ _ _ ih =>
    cases front with
    | nil => exact ⟨[], nodes, rfl, body, fun _ _ rest => rest⟩
    | cons first front =>
      obtain ⟨rfl, rfl⟩ := List.cons.inj shape
      rcases body.first with
        ⟨_, same, ended, _⟩ | ⟨words, others, node, rest, same, rfl, found, behind⟩
      · obtain ⟨rfl, _⟩ := List.cons.inj same
        exact absurd kind (by simp [ended])
      · rcases found.framed with ⟨token, rfl, _⟩ | ⟨opening, _, _, rfl, other, _⟩
        · obtain ⟨rfl, rfl⟩ := List.cons.inj same
          obtain ⟨before, after, rfl, last, joined⟩ := ih behind rfl
          refine ⟨node :: before, after, rfl, last, fun more rest body => ?_⟩
          have whole := DerivesBody.node found (joined more rest body)
          exact whole
        · obtain ⟨rfl, _⟩ := List.cons.inj same
          exact absurd kind other
  | @tag tag opening closing operands left opened each closed tagged ih =>
    cases front with
    | nil => exact ⟨[], nodes, rfl, body, fun _ _ rest => rest⟩
    | cons first front =>
      obtain ⟨rfl, tail⟩ := List.cons.inj shape
      -- The end of the tag is in front of the last token.
      obtain ⟨inner, last, rfl, _⟩ := tagged.endsOnce
      have ends : front ++ [final] = (operands ++ closing :: inner) ++ [last] := by simpa using tail
      obtain ⟨rfl, same⟩ := List.append_inj' ends rfl
      obtain rfl : final = last := (List.cons.inj same).1
      rcases body.first with
        ⟨_, same, ended, _⟩ | ⟨words, others, node, rest, same, rfl, found, behind⟩
      · obtain ⟨rfl, _⟩ := List.cons.inj same
        exact absurd (opened.symm.trans ended) tag.openKind_ne.2
      · rcases found.framed with
          ⟨token, rfl, kind, _⟩ | ⟨start, between, stop, rfl, _, inside, shut⟩
        · obtain ⟨rfl, _⟩ := List.cons.inj same
          exact absurd (opened.symm.trans kind) tag.openKind_ne.1
        · simp only [List.cons_append, List.append_assoc, List.nil_append, List.cons.injEq] at same
          obtain ⟨rfl, tails⟩ := same
          obtain ⟨rfl, rfl, rfl⟩ := operands_unique tails each inside
            (closed ▸ tag.closeKind_operand) shut
          obtain ⟨before, after, rfl, last, joined⟩ := ih behind rfl
          refine ⟨node :: before, after, rfl, last, fun more rest body => ?_⟩
          have whole := DerivesBody.node found (joined more rest body)
          simpa using whole

end

/-- The place that is as far behind an origin as a place is behind the start of its text. -/
def Position.behind (origin place : Position) : Position where
  line := origin.line + (place.line - 1)
  -- Only what stands on the first line is pushed aside by what stands in front of it.
  column := if place.line = 1 then origin.column + place.column else place.column

/-- The start of a text is at the origin itself. -/
theorem Position.behind_start (origin : Position) : origin.behind .start = origin := by
  -- The start is no way behind the origin.
  simp [behind, start]

/-- A place moves on in the same way behind any origin. -/
theorem Position.after_behind (origin : Position) {place : Position} (counted : 1 ≤ place.line)
    (text : List Char) : (origin.behind place).after text = origin.behind (place.after text) := by
  induction text generalizing place with
  | nil => rfl
  | cons char text ih =>
    simp only [Position.after]
    by_cases feed : char = '\n'
    · -- Behind a line feed, the columns are no longer pushed aside.
      have next : (⟨(origin.behind place).line + 1, 0⟩ : Position) =
          origin.behind ⟨place.line + 1, 0⟩ := by
        simp only [behind, Position.mk.injEq]
        exact ⟨by omega, by rw [if_neg (by omega)]⟩
      rw [if_pos feed, if_pos feed, next]
      exact ih (show 1 ≤ place.line + 1 by omega)
    · have next : (⟨(origin.behind place).line, (origin.behind place).column + 1⟩ : Position) =
          origin.behind ⟨place.line, place.column + 1⟩ := by
        simp only [behind, Position.mk.injEq, true_and]
        split <;> omega
      rw [if_neg feed, if_neg feed, next]
      exact ih counted

/-- Pieces one behind the other have their tokens one behind the other. -/
theorem placeTokens_append (place : Position) (first second : List Piece) :
    placeTokens place (first ++ second) =
      placeTokens place first ++ placeTokens (place.after (spellingOf first)) second := by
  -- Place the first part, then the second from where the spelling of the first has led.
  induction first generalizing place with
  | nil => rfl
  | cons piece first ih =>
    have spelled : spellingOf (piece :: first) = piece.spelling ++ spellingOf first := rfl
    rw [spelled, Position.after_append]
    cases piece with
    | gap spelling => exact ih _
    | token kind spelling value =>
      simp only [List.cons_append, placeTokens, ih]
      rfl

/-- Tokens that are placed from a place on are moved as the places that texts lead to from there. -/
theorem placeTokens_moved {move : Position → Position} {place target : Position}
    (moves : ∀ text, move (place.after text) = target.after text) (pieces : List Piece) :
    (placeTokens place pieces).map (Token.moved move) = placeTokens target pieces := by
  -- Each piece advances the place by its spelling, and the move keeps pace with every text. It
  -- therefore moves the token here, and goes on with the pieces behind.
  induction pieces generalizing place target with
  | nil => rfl
  | cons piece pieces ih =>
    have later (text : List Char) : move ((place.after piece.spelling).after text) =
        (target.after piece.spelling).after text := by
      rw [← Position.after_append, ← Position.after_append, moves]
    have others := ih later
    cases piece with
    | gap spelling => exact others
    | token kind spelling value =>
      have here : move place = target := moves []
      simp only [placeTokens, List.map_cons, Token.moved, here]
      exact congrArg _ others

/-- Pieces behind an origin have the same tokens at moved places. -/
theorem placeTokens_behind (origin : Position) {place : Position} (counted : 1 ≤ place.line)
    (pieces : List Piece) :
    placeTokens (origin.behind place) pieces =
      (placeTokens place pieces).map (Token.moved origin.behind) :=
  -- Counting behind an origin moves each place reached in the same way.
  (placeTokens_moved (fun text => (Position.after_behind origin counted text).symm) pieces).symm

/-- The tokens of pieces one behind the other are closed by the end of the last. -/
theorem closedTokens_append (place : Position) (first second : List Piece) :
    closedTokens place (first ++ second) =
      placeTokens place first ++ closedTokens (place.after (spellingOf first)) second := by
  -- The end token stands behind both parts.
  simp only [closedTokens, placeTokens_append, spellingOf_append, Position.after_append,
    List.append_assoc]

/-- The end of input is moved with the tokens in front of it. -/
theorem closedTokens_moved {move : Position → Position} {place target : Position}
    (moves : ∀ text, move (place.after text) = target.after text) (pieces : List Piece) :
    (closedTokens place pieces).map (Token.moved move) = closedTokens target pieces := by
  -- The end token moves with the pieces before it.
  simp only [closedTokens, List.map_append, placeTokens_moved moves, List.map_cons, List.map_nil,
    Token.moved, moves]

/-- Pieces behind an origin have the same tokens at moved places, and the same end. -/
theorem closedTokens_behind (origin : Position) {place : Position} (counted : 1 ≤ place.line)
    (pieces : List Piece) :
    closedTokens (origin.behind place) pieces =
      (closedTokens place pieces).map (Token.moved origin.behind) :=
  -- Counting behind an origin moves the end token too.
  (closedTokens_moved (fun text => (Position.after_behind origin counted text).symm) pieces).symm

/-- A source is read as a template if it is cut to its end, and its tokens make up a body. -/
theorem readTemplate_eq_ok {name file : Option String} {source : String} {tree : Node} :
    readTemplate name file source = .ok tree ↔
      (piecesOf .text source.toList).2 = none ∧ ∃ nodes, tree = .template .start nodes ∧
        DerivesBody (closedTokens .start (piecesOf .text source.toList).1) nodes := by
  constructor
  · intro read
    obtain ⟨tokens, tokenized, made⟩ := readTemplate_tokens.1 read
    obtain ⟨nodes, body, rfl⟩ := map_eq_ok.1 made
    obtain ⟨words, left, rfl, derived⟩ := bodyWithin_derived body
    -- The body takes all of the tokens, since only the last one ends the input.
    obtain rfl := (tokenize_shape tokenized).1.endsOnce.none_left derived
    rw [List.append_nil] at tokenized
    obtain ⟨finished, rfl⟩ := tokenize_eq_ok.1 tokenized
    exact ⟨finished, nodes, rfl, derived⟩
  · rintro ⟨finished, nodes, rfl, body⟩
    exact readTemplate_tokens.2
      ⟨_, tokenize_eq_ok.2 ⟨finished, rfl⟩, (DerivesTemplate.template body).read⟩

/-- The nodes of a text that opens nothing: one, or none if it is empty. -/
def dataNodes (place : Position) (text : List Char) : List Node :=
  if text = [] then [] else [.data place (String.ofList text)]

/-- The nodes of data are read from its tokens, in front of whatever stands behind them. -/
theorem dataNodes_derived {place : Position} {text : List Char} {rest : List Token}
    {nodes : List Node} :
    DerivesBody (placeTokens place (dataPieces text) ++ rest) nodes ↔
      ∃ others, nodes = dataNodes place text ++ others ∧ DerivesBody rest others := by
  -- Text that is not empty is one token, from which a body can only read one node. Empty text is no
  -- token and no node.
  by_cases empty : text = []
  · simp [dataPieces, dataNodes, empty, placeTokens]
  · simp only [dataPieces, dataNodes, if_neg empty]
    constructor
    · intro body
      rcases body.first with
        ⟨_, same, ended, _⟩ | ⟨words, others, node, rest, same, rfl, found, behind⟩
      · obtain ⟨rfl, _⟩ := List.cons.inj same
        cases ended
      · rcases found.framed with ⟨token, rfl, _, rfl⟩ | ⟨opening, _, _, rfl, other, _⟩
        · obtain ⟨rfl, rfl⟩ := List.cons.inj same
          exact ⟨rest, rfl, behind⟩
        · obtain ⟨rfl, _⟩ := List.cons.inj same
          exact absurd rfl other
    · rintro ⟨others, rfl, body⟩
      exact .node (.data rfl) body

/-- The pieces of plain text make it up. -/
theorem spellingOf_dataPieces (text : List Char) : spellingOf (dataPieces text) = text := by
  -- The text is one piece that spells itself, or nothing.
  by_cases empty : text = []
  · simp [dataPieces, empty, spellingOf]
  · simp [dataPieces, empty, spellingOf, Piece.plain, Piece.spelling]

/-- No node stands at the end of input. -/
theorem DerivesBody.atEnd {final : Token} {nodes : List Node} (body : DerivesBody [final] nodes)
    (ended : final.kind = .endOfInput) : nodes = [] := by
  -- A node needs a token of its own, and the end token starts none.
  rcases body.first with ⟨_, _, _, same⟩ | ⟨words, others, node, rest, same, rfl, found, behind⟩
  · exact same
  · rcases found.framed with ⟨token, rfl, kind, _⟩ | ⟨opening, _, _, rfl, _⟩
    · obtain ⟨rfl, _⟩ := List.cons.inj same
      exact absurd (ended.symm.trans kind) (by decide)
    · simp at same

/-- A source that opens nothing is read as its own text. -/
theorem readTemplate_plain {name file : Option String} {text : String}
    (plain : OpensNothing text.toList) :
    readTemplate name file text = .ok (.template .start (dataNodes .start text.toList)) := by
  -- Text that opens nothing is cut into one piece of data, and the grammar reads it as one node.
  have stops : StopsBefore text.toList [] := .inl rfl
  have pieces := piecesOf_plain plain stops
  rw [List.append_nil, piecesOf_nil, List.append_nil] at pieces
  refine readTemplate_eq_ok.2 ⟨by rw [pieces], _, rfl, ?_⟩
  rw [pieces]
  exact dataNodes_derived.2 ⟨[], (List.append_nil _).symm, .ended rfl⟩

/-- A tree has the nodes of two others: the data where they meet is joined, and the nodes behind it
are moved. -/
inductive Seamed (front back whole : Node) : Prop
  | joined {before after : List Node} {place : Position} {plain lead : List Char}
    {move : Position → Position} (split : front.body = before ++ dataNodes place plain)
    (splitBehind : back.body = dataNodes .start lead ++ after)
    (joined : whole.body =
      before ++ (dataNodes place (plain ++ lead) ++ after.map (Node.moved move)))

/-- Two sources one behind the other are read as a tree that has the nodes of both. -/
theorem readTemplate_append {name file : Option String} {first second : String}
    {front back : Node} (read : readTemplate name file first = .ok front)
    (readBehind : readTemplate name file second = .ok back)
    (apart : ¬ MeetsOpening first.toList second.toList) :
    ∃ whole, readTemplate name file (first ++ second) = .ok whole ∧ Seamed front back whole := by
  obtain ⟨finished, nodes, rfl, body⟩ := readTemplate_eq_ok.1 read
  obtain ⟨ended, others, rfl, rest⟩ := readTemplate_eq_ok.1 readBehind
  obtain ⟨pieces, plain, lead, left, split, splitBehind, joined, joinedBehind, follow, whole⟩ :=
    piecesOf_append finished ended apart
  -- The nodes in front of the trailing data are those of pieces that stay as they are.
  rw [split, closedTokens_append] at body
  have tagged : IsTagged (placeTokens .start pieces ++ [⟨.endOfInput, "", .start⟩]) :=
    follow.tagged rfl .start rfl
  obtain ⟨before, data, rfl, dataBody, joins⟩ := body.split tagged
  rw [closedTokens, dataNodes_derived] at dataBody
  obtain ⟨none, rfl, atEnd⟩ := dataBody
  obtain rfl := atEnd.atEnd rfl
  -- The nodes behind the leading data are moved behind the first source.
  rw [splitBehind, closedTokens_append, dataNodes_derived] at rest
  obtain ⟨after, rfl, moving⟩ := rest
  have moved := moving.moved (Position.start.after first.toList).behind
  rw [spellingOf_dataPieces, ← closedTokens_behind _ (Position.start.line_le_after lead),
    ← Position.after_behind _ (Int.le_refl _), Position.behind_start] at moved
  -- What is behind the seam starts where the joined data ends.
  have reached : (Position.start.after (spellingOf pieces)).after (plain ++ lead) =
      (Position.start.after first.toList).after lead := by
    rw [← joined, Position.after_append, Position.after_append]
  have cut : (piecesOf .text (first ++ second).toList).2 = none := by
    rw [String.toList_append, whole]
  have derived : DerivesBody (closedTokens .start (piecesOf .text (first ++ second).toList).1)
      (before ++ (dataNodes (Position.start.after (spellingOf pieces)) (plain ++ lead) ++
        after.map (Node.moved (Position.start.after first.toList).behind))) := by
    rw [String.toList_append, whole, List.append_assoc, closedTokens_append, closedTokens_append,
      spellingOf_dataPieces, reached]
    exact joins _ _ (dataNodes_derived.2 ⟨_, rfl, moved⟩)
  exact ⟨_, readTemplate_eq_ok.2 ⟨cut, _, rfl, derived⟩,
    .joined (congrArg (before ++ ·) (List.append_nil _)) rfl rfl⟩

end Stencil
