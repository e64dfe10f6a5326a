import Mathlib.Data.List.Induction
import Stencil.Proofs.PieceGrammar
import Stencil.Source

/-! Nothing of a source is lost between its tokens, and each of them is placed where it starts. -/

namespace Stencil

/-- A line starts at the start of a text, and behind each line feed. -/
def StartsLine (text : List Char) (offset : Nat) : Prop :=
  offset = 0 ∨ ∃ before, offset = before + 1 ∧ text[before]? = some '\n'

/-- The place of an offset: its line is counted from one by the line feeds in front of it, and its
column from zero by the characters since the line started. -/
structure TruePlace (text : List Char) (offset : Nat) (place : Position) : Prop where
  line : place.line = 1 + (text.take offset).count '\n'
  column : ∃ start ≤ offset, StartsLine text start ∧ '\n' ∉ (text.take offset).drop start ∧
    place.column = offset - start

/-- The tokens of pieces that stand in a text from an offset on, each at the place of its own
offset, and the end of input at the place of the end. -/
inductive Placed (text : List Char) : Nat → List Piece → List Token → Prop
  | ended {place : Position} : TruePlace text text.length place →
      Placed text text.length [] [⟨.endOfInput, "", place⟩]
  -- A gap moves the offset on and gives no token.
  | gap {offset : Nat} {spelling : List Char} {pieces : List Piece} {tokens : List Token} :
      Placed text (offset + spelling.length) pieces tokens →
      Placed text offset (.gap spelling :: pieces) tokens
  | token {offset : Nat} {kind : TokenKind} {spelling value : List Char} {place : Position}
      {pieces : List Piece} {tokens : List Token} : TruePlace text offset place →
      Placed text (offset + spelling.length) pieces tokens →
      Placed text offset (.token kind spelling value :: pieces)
        (⟨kind, String.ofList value, place⟩ :: tokens)

/-- A line that starts in a text starts there whatever stands behind the text. -/
theorem StartsLine.append {text : List Char} {offset : Nat} (starts : StartsLine text offset)
    (rest : List Char) : StartsLine (text ++ rest) offset := by
  -- What stands before the offset is not changed.
  rcases starts with rfl | ⟨before, rfl, feed⟩
  · exact .inl rfl
  · obtain ⟨within, _⟩ := List.getElem?_eq_some_iff.1 feed
    exact .inr ⟨before, rfl, by rwa [List.getElem?_append_left within]⟩

/-- The place of the end of a text is the place of that offset, whatever stands behind it. -/
theorem TruePlace.append {text : List Char} {place : Position}
    (ends : TruePlace text text.length place) (rest : List Char) :
    TruePlace (text ++ rest) text.length place := by
  -- The place is counted in the text before it.
  obtain ⟨line, start, within, starts, none, column⟩ := ends
  rw [List.take_length] at line none
  exact ⟨by rwa [List.take_left], start, within, starts.append rest, by rwa [List.take_left],
    column⟩

/-- The place of the end of a text is counted by its line feeds. -/
theorem truePlace_end (text : List Char) :
    TruePlace text text.length (Position.start.after text) := by
  -- The induction is on the text from its end, where the place is moved on by one character.
  induction text using List.reverseRecOn with
  | nil => exact ⟨rfl, 0, Nat.le_refl _, .inl rfl, by simp, rfl⟩
  | append_singleton text char ih =>
    obtain ⟨line, start, within, starts, none, column⟩ := ih
    rw [List.take_length] at line none
    rw [Position.after_append]
    by_cases feed : char = '\n'
    · subst feed
      -- The line starts at the end itself.
      refine ⟨?_, text.length + 1, by simp, .inr ⟨text.length, rfl, by simp⟩, by simp, ?_⟩
      · rw [List.take_length]
        simp [Position.after, line, Int.add_assoc]
      · simp [Position.after]
    · refine ⟨?_, start, by simp; omega, starts.append _, ?_, ?_⟩
      · rw [List.take_length]
        simp [Position.after, feed, line]
      · rw [List.take_length, List.drop_append_of_le_length within]
        simp [none, Ne.symm feed]
      · simp [Position.after, feed, column]
        omega

/-- The place that is reached behind the first part of a text is the place of that offset. -/
theorem truePlace_after (before rest : List Char) :
    TruePlace (before ++ rest) before.length (Position.start.after before) :=
  -- The place is true at the end of the text before it, and what follows changes nothing.
  (truePlace_end before).append rest

/-- Tokens that are placed one behind the other stand where their pieces start. -/
theorem placeTokens_placed (before : List Char) (pieces : List Piece) :
    Placed (before ++ spellingOf pieces) before.length pieces
      (placeTokens (Position.start.after before) pieces ++
        [⟨.endOfInput, "", Position.start.after (before ++ spellingOf pieces)⟩]) := by
  induction pieces generalizing before with
  | nil =>
    have same : before ++ spellingOf [] = before := by simp [spellingOf]
    rw [same]
    exact .ended (truePlace_end before)
  | cons piece pieces ih =>
    -- What stands in front of the other pieces ends with this one.
    have rest := ih (before ++ piece.spelling)
    have same : before ++ spellingOf (piece :: pieces) =
        before ++ piece.spelling ++ spellingOf pieces := by simp [spellingOf]
    rw [same]
    rw [List.length_append, Position.after_append] at rest
    cases piece with
    | gap spelling => exact .gap rest
    | token kind spelling value =>
      refine .token ?_ rest
      rw [List.append_assoc]
      exact truePlace_after before _

/-- The tokens of a source cover it with the blanks inside tags and the comments outside of them,
and a source that cannot be cut is blamed at the place where the rest of it cannot go on. -/
theorem readTokens_places (name : Option String) (source : String) :
    match readTokens name source with
    | .ok tokens => ∃ pieces, Follow .text pieces .text ∧ spellingOf pieces = source.toList ∧
        (∀ piece ∈ pieces, piece.spelling ≠ []) ∧ Placed source.toList 0 pieces tokens
    | .error failure => ∃ pieces zone rest problem place report, Follow .text pieces zone ∧
        spellingOf pieces ++ rest = source.toList ∧ Blocks zone rest problem ∧
        TruePlace source.toList (spellingOf pieces).length place ∧
        failure = .diagnostic (.malformed report) ∧ report.stage = .lexer ∧
        report.code = problem.code ∧ report.message = problem.message ∧
        report.line = some place.line ∧ report.column = some place.column := by
  -- Cutting the source covers it up to where it ends. The tokens stand where their pieces start,
  -- and a problem stands behind the last one.
  obtain ⟨last, rest, follow, joined, finished, blocked⟩ := piecesOf_follow .text source.toList
  unfold readTokens
  cases cut : tokenize source with
  | ok tokens =>
    obtain ⟨ended, rfl⟩ := tokenize_eq_ok.1 cut
    obtain ⟨rfl, rfl⟩ := finished ended
    rw [List.append_nil] at joined
    have placed : Placed (spellingOf (piecesOf .text source.toList).1) 0
        (piecesOf .text source.toList).1 (closedTokens .start (piecesOf .text source.toList).1) :=
      placeTokens_placed [] _
    rw [joined] at placed
    exact ⟨_, follow, joined, follow.full, placed⟩
  | error fault =>
    obtain ⟨ended, reached⟩ := tokenize_eq_error.1 cut
    have place := truePlace_after (spellingOf (piecesOf .text source.toList).1) rest
    rw [joined, ← reached] at place
    exact ⟨_, last, rest, fault.problem, fault.position, _, follow, joined,
      blocked fault.problem ended, place, rfl, rfl, rfl, rfl, rfl, rfl⟩

end Stencil
