import Stencil.Proofs.GrammarReading
import Stencil.Proofs.PieceGrammar
import Stencil.Proofs.RoundTrip
import Stencil.Proofs.SourceLines

/-! Every source is a template, or malformed on one of its lines, or has an integer that is too long
to be read. -/

namespace Stencil

/-- The kinds of token that may stand inside a tag. -/
def operandKinds : List TokenKind :=
  [.name, .string, .integer, .float, .dot, .comma, .colon, .braceOpen, .braceClose, .bracketOpen,
   .bracketClose]

/-- Tokens of stretches of data and of tags, up to the end of input. -/
inductive IsTagged : List Token → Prop
  | ended {token : Token} : token.kind = .endOfInput → IsTagged [token]
  | data {token : Token} {rest : List Token} : token.kind = .data → token.value ≠ "" →
      OpensNothing token.value.toList → IsTagged rest → IsTagged (token :: rest)
  -- Tags do not nest, so between opener and closer there are operands alone.
  | tag {tag : Tag} {opening closing : Token} {operands rest : List Token} :
      opening.kind = tag.openKind → (∀ token ∈ operands, token.kind ∈ operandKinds) →
      closing.kind = tag.closeKind → IsTagged rest →
      IsTagged (opening :: (operands ++ closing :: rest))

/-- Tokens from the inside of a tag on: more of its operands, what closes it, and what follows. -/
def IsTaggedIn (tag : Tag) (tokens : List Token) : Prop :=
  ∃ operands closing rest, tokens = operands ++ closing :: rest ∧
    (∀ token ∈ operands, token.kind ∈ operandKinds) ∧ closing.kind = tag.closeKind ∧ IsTagged rest

/-- Tokens from a zone on. -/
def IsTaggedFrom : Zone → List Token → Prop
  | .text, tokens => IsTagged tokens
  | .tag tag, tokens => IsTaggedIn tag tokens

section

variable {tokens : List Token}

/-- An operand may be put in front of the rest of a tag. -/
theorem IsTaggedIn.operand {tag : Tag} {token : Token} (inside : IsTaggedIn tag tokens)
    (kind : token.kind ∈ operandKinds) : IsTaggedIn tag (token :: tokens) := by
  -- The operand goes in front of those that come before the closer.
  obtain ⟨operands, closing, rest, rfl, each, closed, tagged⟩ := inside
  exact ⟨token :: operands, closing, rest, rfl, List.forall_mem_cons.2 ⟨kind, each⟩, closed, tagged⟩

/-- The sign of a tag is an operand, and no number. -/
theorem punctuation_operand {char : Char} {kind : TokenKind}
    (sign : punctuation? char = some kind) :
    kind ∈ operandKinds ∧ kind ≠ .integer ∧ kind ≠ .float := by
  -- One case per sign.
  unfold punctuation? at sign
  split at sign <;> cases sign <;> decide

/-- A token and what follows it have the shape of a source from the zone of the token on. -/
theorem Stands.tagged {zone after : Zone} {kind : TokenKind} {spelling value : List Char}
    (stands : Stands zone (.token kind spelling value) after) (place : Position)
    (behind : IsTaggedFrom after tokens) :
    IsTaggedFrom zone (⟨kind, String.ofList value, place⟩ :: tokens) := by
  -- The zone after the piece says what the tokens behind it are, and the piece adds its own token
  -- in front: an opener starts a tag, a closer ends one, and an operand stays inside.
  cases stands with
  | data full opens =>
    refine .data rfl (fun empty => full ?_) (by rwa [String.toList_ofList]) behind
    simpa using congrArg String.toList empty
  | opening tag =>
    obtain ⟨operands, closing, rest, rfl, each, closed, tagged⟩ := behind
    exact .tag rfl each closed tagged
  | closing tag => exact ⟨[], _, tokens, rfl, by simp, rfl, behind⟩
  | name | integer | float | string => exact IsTaggedIn.operand behind (by simp [operandKinds])
  | sign found => exact IsTaggedIn.operand behind (punctuation_operand found).1

/-- The tokens of pieces that follow one another have the shape of a source. -/
theorem Follow.tagged {zone last : Zone} {pieces : List Piece} (follow : Follow zone pieces last)
    (text : last = .text) (position : Position) {final : Token} (ended : final.kind = .endOfInput) :
    IsTaggedFrom zone (placeTokens position pieces ++ [final]) := by
  induction follow generalizing position with
  | done =>
    subst text
    exact .ended ended
  | @piece zone next last piece pieces stands _ ih =>
    cases piece with
    | gap spelling =>
      -- A gap stays in its zone and leaves no token.
      have behind := ih text (position.after spelling)
      cases stands with
      | comment | blanks => exact behind
    | token kind spelling value =>
      exact stands.tagged position (ih text (position.after spelling))

/-- The end of input is only at the end of tokens that have the shape of a source. -/
theorem IsTagged.endsOnce (tagged : IsTagged tokens) : EndsOnce tokens := by
  induction tagged with
  | @ended token kind => exact ⟨[], token, rfl, kind, by simp⟩
  | @data token rest kind _ _ _ ih =>
    obtain ⟨front, last, rfl, ended, others⟩ := ih
    exact ⟨token :: front, last, rfl, ended,
      List.forall_mem_cons.2 ⟨by simp [kind], others⟩⟩
  | @tag tag opening closing operands rest opened each closed _ ih =>
    obtain ⟨front, last, rfl, ended, others⟩ := ih
    refine ⟨opening :: (operands ++ closing :: front), last, by simp, ended, ?_⟩
    -- Neither what opens and closes a tag nor an operand is the end of input.
    have inside : ∀ token ∈ operands, token.kind ≠ .endOfInput := fun token member same =>
      absurd (each token member) (by rw [same]; decide)
    refine List.forall_mem_cons.2 ⟨?_, List.forall_mem_append.2 ⟨inside,
      List.forall_mem_cons.2 ⟨?_, others⟩⟩⟩
    · rw [opened]
      cases tag <;> decide
    · rw [closed]
      cases tag <;> decide

/-- A token that is a number if its kind says so, only that an integer may have too many digits. -/
def Token.IsCounted (token : Token) : Prop :=
  (token.kind = .integer →
      ((readInteger? token.value).isSome ↔ token.value.length ≤ digitLimit)) ∧
    (token.kind = .float → (readDouble? token.value).isSome)

/-- A token of any other kind is not asked for a number. -/
theorem Token.IsCounted.other {token : Token} (integer : token.kind ≠ .integer)
    (float : token.kind ≠ .float) : token.IsCounted :=
  -- Neither condition applies.
  ⟨fun kind => absurd kind integer, fun kind => absurd kind float⟩

/-- A piece that is a number can be read as one, unless it has too many digits. -/
theorem Stands.counted {zone after : Zone} {kind : TokenKind} {spelling value : List Char}
    (stands : Stands zone (.token kind spelling value) after) (place : Position) :
    Token.IsCounted ⟨kind, String.ofList value, place⟩ := by
  -- Only two of the pieces are numbers, and both are spelled in decimal digits.
  cases stands with
  | integer full each =>
    refine ⟨fun _ => ?_, nofun⟩
    rw [readInteger_decimal full each, String.length_ofList]
    split <;> simp [*]
  | float full _ each behind => exact ⟨nofun, fun _ => readDouble_decimal full each behind⟩
  | opening tag | closing tag => cases tag <;> exact .other nofun nofun
  | sign found => exact .other (punctuation_operand found).2.1 (punctuation_operand found).2.2
  | data | name | string => exact .other nofun nofun

/-- The tokens of pieces that follow one another are numbers where they say so. -/
theorem Follow.counted {zone last : Zone} {pieces : List Piece} (follow : Follow zone pieces last)
    (position : Position) : ∀ token ∈ placeTokens position pieces, token.IsCounted := by
  induction follow generalizing position with
  | done => simp [placeTokens]
  | @piece zone next last piece pieces stands _ ih =>
    -- A gap leaves no token, and any other piece leaves the one that it is.
    cases piece with
    | gap spelling => exact ih _
    | token kind spelling value => exact List.forall_mem_cons.2 ⟨stands.counted position, ih _⟩

/-- Tokens that end once are tokens up to the end of input. -/
theorem EndsOnce.ready (once : EndsOnce tokens) : Ready tokens := by
  -- The end token is the last one.
  obtain ⟨front, token, same, kind, _⟩ := once
  exact ⟨front, token, same, kind⟩

end

/-- The tokens of a source have the shape of one, and are numbers where they say so. -/
theorem tokenize_shape {source : String} {tokens : List Token}
    (cut : tokenize source = .ok tokens) :
    IsTagged tokens ∧ ∀ token ∈ tokens, token.IsCounted := by
  -- The pieces of the source follow one another, and the end of input stands behind the last one.
  obtain ⟨last, rest, follow, _, finished, _⟩ := piecesOf_follow .text source.toList
  obtain ⟨ended, rfl⟩ := tokenize_eq_ok.1 cut
  refine ⟨follow.tagged (finished ended).1 .start rfl, ?_⟩
  refine List.forall_mem_append.2 ⟨follow.counted .start, ?_⟩
  simp [Token.IsCounted]

/-- A source that cannot be cut is malformed on a line of its own. -/
theorem tokenize_fault_line {source : String} {fault : LexFault}
    (cut : tokenize source = .error fault) : 1 ≤ fault.position.line := by
  -- Lines are counted from one, and reading only moves forward.
  rw [(tokenize_eq_error.1 cut).2]
  exact Position.start.line_le_after _

/-- An integer with too many digits is all that keeps tokens up to it from being the start of a
template: any integer that is read could stand in its place. -/
def StopsAtInteger (tokens : List Token) (text : String) : Prop :=
  ∃ before token after, tokens = before ++ token :: after ∧ token.kind = .integer ∧
    token.value = text ∧ digitLimit < text.length ∧
    ∀ other : Token, other.kind = .integer → (readInteger? other.value).isSome →
      ∃ more tree, Node.ofTokens (before ++ other :: more) = .ok tree

/-- Tokens of a source that are not read as a tree have one at fault, or an integer that is too
long. -/
theorem tokenize_halts {source : String} {tokens : List Token} {stop : ParseStop}
    (cut : tokenize source = .ok tokens) (stopped : Node.ofTokens tokens = .error stop) :
    (∃ fault, stop = .fault fault ∧ fault.token ∈ tokens) ∨
      ∃ text, stop = .notInteger text ∧ StopsAtInteger tokens text := by
  obtain ⟨tagged, counted⟩ := tokenize_shape cut
  -- The tokens do not run out, since the end of input is among them.
  have settled := ofTokens_settles tagged.endsOnce.ready
  rw [stopped] at settled
  obtain ⟨before, token, after, split, named, goes, _⟩ := ofTokens_stopped stopped settled
  have number := counted token (by simp [split])
  -- What the reading stops at is told by the way in which it stops.
  cases named with
  | fault fault => exact .inl ⟨fault, rfl, by simp [split]⟩
  | integer kind unread =>
    have long := (not_congr (number.1 kind)).1 (by simp [unread])
    exact .inr ⟨token.value, rfl, before, token, after, split, kind, rfl, Nat.lt_of_not_le long,
      fun other integer read => goes [other] (.integer token.value integer read)⟩
  | float kind unread =>
    -- No float has too many digits.
    have read := number.2 kind
    simp [unread] at read

/-- A source is refused if it cannot be cut, if one of its tokens cannot stand where it does, or if
an integer in it is too long. -/
theorem readTemplate_eq_error {name file : Option String} {source : String} {failure : Failure} :
    readTemplate name file source = .error failure ↔
      (∃ fault, tokenize source = .error fault ∧
        failure = .diagnostic (fault.diagnostic name source)) ∨
      (∃ tokens fault, tokenize source = .ok tokens ∧
        Node.ofTokens tokens = .error (.fault fault) ∧
        failure = .diagnostic (fault.diagnostic name file (some source))) ∨
      ∃ tokens text, tokenize source = .ok tokens ∧
        Node.ofTokens tokens = .error (.notInteger text) ∧
        failure = .mishap (.notInteger text) := by
  rw [readTemplate, readTokens]
  -- The source is cut or not, and its tokens are read or stop in one of two ways.
  cases cut : tokenize source with
  | error fault => simp [eq_comm]
  | ok tokens =>
    simp only [ok_bind, readTree]
    cases built : Node.ofTokens tokens with
    | ok tree => simp [built]
    | error stop =>
      rcases tokenize_halts cut built with ⟨fault, rfl, _⟩ | ⟨text, rfl, _⟩ <;>
        simp [built, eq_comm]

/-- A source is cut into tokens that have the shape of one, or is found malformed; and it is read as
a template, or is found malformed on one of its lines, or stops at an integer that is too long. -/
theorem readTemplate_total (name file : Option String) (source : String) :
    (match readTokens name source with
      | .ok tokens => IsTagged tokens ∧ EndsOnce tokens
      | .error failure => ∃ report, failure = .diagnostic (.malformed report) ∧
          report.stage = .lexer) ∧
      match readTemplate name file source with
      | .ok tree => ∃ body, tree = .template .start body
      | .error failure =>
        (∃ report line, failure = .diagnostic (.malformed report) ∧
          (report.stage = .lexer ∨ ∃ token, report.stage = .parser token) ∧
          report.line = some line ∧ 1 ≤ line) ∨
        ∃ tokens text, readTokens name source = .ok tokens ∧ StopsAtInteger tokens text ∧
          failure = .mishap (.notInteger text) := by
  cases cut : tokenize source with
  | error fault =>
    -- What cannot be cut is malformed where the first piece is missing.
    have read : readTokens name source = .error (.diagnostic (fault.diagnostic name source)) := by
      simp [readTokens, cut]
    simp only [readTemplate, read, error_bind]
    exact ⟨⟨_, rfl, rfl⟩, .inl ⟨_, _, rfl, .inl rfl, rfl, tokenize_fault_line cut⟩⟩
  | ok tokens =>
    have read : readTokens name source = .ok tokens := by simp [readTokens, cut]
    have tagged := (tokenize_shape cut).1
    simp only [readTemplate, read, ok_bind, readTree]
    refine ⟨⟨tagged, tagged.endsOnce⟩, ?_⟩
    cases built : Node.ofTokens tokens with
    | ok tree =>
      obtain ⟨nodes, _, rfl⟩ := map_eq_ok.1 built
      exact ⟨nodes, rfl⟩
    | error stop =>
      -- The token at fault is one of those that the source was cut into.
      rcases tokenize_halts cut built with ⟨fault, rfl, member⟩ | ⟨text, rfl, stops⟩
      · exact .inl ⟨_, _, rfl, .inr ⟨_, rfl⟩, rfl, tokenize_line cut member⟩
      · exact .inr ⟨tokens, text, rfl, stops, rfl⟩

/-- An output of an integer that is too long is neither a template nor found malformed. -/
theorem long_output_unread {number : Int} (positive : 0 ≤ number) (long : ¬ IsShort number) :
    readTemplate none none
        ((Node.template .start [.output .start (.constant .start (.int number))]).source '\'') =
      .error (.mishap (.notInteger (writeInteger number))) := by
  have printable : PrintableBody [.output .start (.constant .start (.int number))] := positive
  obtain ⟨last, ended, tokens⟩ :=
    @tokenize_source '\'' (.inl rfl) (.template .start [_]) printable
  have unread : readInteger? (writeInteger number) = none := by
    have same : number.natAbs = number.toNat := by omega
    rw [IsShort, same] at long
    rw [writeInteger_digits positive, readInteger_toDigits, if_neg long]
  refine readTemplate_eq_error.2 (.inr (.inr ⟨_, _, tokens, ?_, rfl⟩))
  -- The integer is the second token, behind what opens the output.
  simp [Node.body, Node.pieces, Node.words, Value.words, tagPieces, Piece.plain, placeTokens,
    Node.ofTokens, bodyWithin, bodyNode, outputTag, expression, expressionWithin, primaryWithin,
    integerConstant, unread, Tag.openKind, Except.map]

/-- An integer with one digit more than are read makes a source that is neither. -/
theorem longBody_unread :
    readTemplate none none ((Node.template .start longBody).source '\'') =
      .error (.mishap (.notInteger (writeInteger (tenTo digitLimit : Nat)))) :=
  -- The body is one integer with a digit more than can be read.
  long_output_unread (Int.natCast_nonneg _) not_isShort_tenTo

end Stencil
