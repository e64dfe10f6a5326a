import Mathlib
import Stencil.Proofs.SeveredPieces
import Stencil.Proofs.SourceParts

/-! A string literal is one token, and every escape is decoded but that of a line end. -/

namespace Stencil

/-- A part of a string literal: a character by itself, or one with a backslash in front of it. -/
inductive LiteralPart
  | plain (char : Char)
  | escaped (char : Char)
  deriving DecidableEq

/-- How a part is written. -/
def LiteralPart.written : LiteralPart → List Char
  | .plain char => [char]
  | .escaped char => ['\\', char]

/-- The character that a part stands for. -/
def LiteralPart.meaning : LiteralPart → Char
  | .plain char | .escaped char => char

/-- What a part leaves in the value of its literal. -/
def LiteralPart.kept : LiteralPart → List Char
  -- A backslash is taken away from every character but the one that ends a line.
  | .escaped '\n' => ['\\', '\n']
  | part => [part.meaning]

/-- Whether a part may stand between two quotes: by themselves, the quote and the backslash may not,
and behind a backslash every character may. -/
def LiteralPart.MayStand (quote : Char) : LiteralPart → Prop
  | .plain char => char ≠ quote ∧ char ≠ '\\'
  | .escaped _ => True

/-- The text between the quotes of a literal. -/
def literalBody (parts : List LiteralPart) : List Char :=
  parts.flatMap LiteralPart.written

/-- A literal with its quotes. -/
def quotedLiteral (quote : Char) (parts : List LiteralPart) : List Char :=
  quote :: literalBody parts ++ [quote]

/-- The value of a literal. -/
def literalValue (parts : List LiteralPart) : List Char :=
  parts.flatMap LiteralPart.kept

/-- A quote is none of the characters that go on with a token. -/
theorem IsQuote.severs {quote : Char} (quoted : IsQuote quote) : Severs quote := by
  -- Both quotes are compared with every character that could run on.
  rcases quoted with rfl | rfl <;> exact ⟨by decide, by decide, by decide, by decide⟩

/-- No piece runs into a quote. -/
theorem IsQuote.apart {quote : Char} (quoted : IsQuote quote) (piece : Piece) (more : List Char) :
    piece.runsInto (quote :: more) = false := by
  -- A quote continues no token and is no blank, so it ends whatever stands before it.
  have severs := quoted.severs
  have visible : isBlank quote = false := by rcases quoted with rfl | rfl <;> decide
  cases piece with
  | gap spelling => exact visible
  | token kind spelling value =>
    cases kind <;> simp [Piece.runsInto, severs.word, severs.digit, severs.point]

section

variable {quote : Char} {parts : List LiteralPart}

/-- The parts of a literal spell its value. -/
theorem literalBody_spells (allowed : ∀ part ∈ parts, part.MayStand quote) :
    SpellsBetween quote (literalBody parts) (literalValue parts) := by
  -- Induction on the parts. An escaped line feed keeps its backslash, and every other escaped
  -- character drops it.
  induction parts with
  | nil => exact .ended
  | cons part parts ih =>
    obtain ⟨stands, others⟩ := List.forall_mem_cons.1 allowed
    have rest := ih others
    cases part with
    | plain char => exact .plain stands.1 stands.2 rest
    | escaped char =>
      by_cases line : char = '\n'
      · subst line
        exact .broken rest
      · have kept : (LiteralPart.escaped char).kept = [char] := by
          unfold LiteralPart.kept
          split
          · rename_i same
            cases same
            exact absurd rfl line
          · rfl
        have spells := SpellsBetween.kept line rest
        rw [literalValue, List.flatMap_cons, kept]
        exact spells

/-- The value of a literal is what its parts stand for just if none of them escapes a line end. -/
theorem literalValue_eq :
    literalValue parts = parts.map LiteralPart.meaning ↔ LiteralPart.escaped '\n' ∉ parts := by
  induction parts with
  | nil => simp [literalValue]
  | cons part parts ih =>
    by_cases line : part = .escaped '\n'
    · -- The value starts with the backslash.
      subst line
      simp [literalValue, LiteralPart.kept, LiteralPart.meaning]
    · have kept : part.kept = [part.meaning] := by
        unfold LiteralPart.kept
        split
        · exact absurd rfl line
        · rfl
      simp only [literalValue, List.flatMap_cons, kept, List.map_cons, List.mem_cons,
        Ne.symm line, false_or, List.singleton_append, List.cons.injEq, true_and]
      exact ih

/-- A literal is what comes next where it starts inside a tag. -/
theorem nextInTag_literal (quoted : IsQuote quote) (allowed : ∀ part ∈ parts, part.MayStand quote)
    (tag : Tag) (after : List Char) :
    nextInTag tag (quotedLiteral quote parts ++ after) =
      .piece (.token .string (quotedLiteral quote parts) (literalValue parts)) (.tag tag)
        after := by
  have stands : Stands (.tag tag) (.token .string (quotedLiteral quote parts) (literalValue parts))
      (.tag tag) := .string quoted (literalBody_spells allowed)
  refine stands.cutOff rfl ?_
  -- No closer starts with a quote.
  rcases quoted with rfl | rfl <;> cases tag <;>
    simp [Piece.spelling, quotedLiteral, Tag.closer]

end

/-- The pieces of a text that ends inside a tag make it up, and lead there. -/
theorem piecesOf_unclosed {text : List Char} {tag : Tag}
    (inside : (piecesOf .text text).2 = some (.unclosedTag tag)) :
    CutsOff .text text (piecesOf .text text).1 (.tag tag) [] := by
  obtain ⟨last, rest, cutsOff⟩ := piecesOf_cutsOff (List.append_nil (piecesOf .text text).1).symm
  -- Nothing is cut off behind the pieces, so that the reader stopped there.
  have pieces := cutsOff.pieces
  have none : (piecesOf last rest).1 = [] := by
    have first := congrArg Prod.fst pieces
    exact List.self_eq_append_right.1 first
  have ending : (piecesOf last rest).2 = some (.unclosedTag tag) := by
    rw [← inside, pieces]
  obtain ⟨reached, left, follow, joined, _, blocked⟩ := piecesOf_follow last rest
  have blocks := blocked _ ending
  rw [none] at follow joined
  cases follow
  obtain rfl : left = rest := joined
  cases blocks
  exact cutsOff

section

variable {before after : List Char} {tag : Tag} {quote : Char} {parts : List LiteralPart}

/-- A literal that starts inside a tag is one token, which ends at its closing quote and has the
value that its parts leave: what they stand for, exactly if none of them escapes a line end. -/
theorem string_literal_read (inside : (piecesOf .text before).2 = some (.unclosedTag tag))
    (quoted : IsQuote quote) (allowed : ∀ part ∈ parts, part.MayStand quote) :
    piecesOf .text (before ++ (quotedLiteral quote parts ++ after)) =
        ((piecesOf .text before).1 ++
          .token .string (quotedLiteral quote parts) (literalValue parts) ::
            (piecesOf (.tag tag) after).1,
          (piecesOf (.tag tag) after).2) ∧
      placeTokens .start (piecesOf .text (before ++ (quotedLiteral quote parts ++ after))).1 =
        placeTokens .start (piecesOf .text before).1 ++
          ⟨.string, String.ofList (literalValue parts), Position.start.after before⟩ ::
            placeTokens (Position.start.after (before ++ quotedLiteral quote parts))
              (piecesOf (.tag tag) after).1 ∧
      (literalValue parts = parts.map LiteralPart.meaning ↔
        LiteralPart.escaped '\n' ∉ parts) := by
  have cutsOff := piecesOf_unclosed inside
  have spelled := cutsOff.joined
  rw [List.append_nil] at spelled
  -- The pieces in front of the quote are cut again, and the literal comes next.
  have again := (cutsOff.severed quoted.severs (literalBody parts ++ [quote] ++ after)
    fun piece _ => quoted.apart piece _).pieces
  have read : nextPiece (.tag tag) (quotedLiteral quote parts ++ after) = _ :=
    nextInTag_literal quoted allowed tag after
  have literal := piecesOf_cons read
  have text : quotedLiteral quote parts ++ after =
      quote :: (literalBody parts ++ [quote] ++ after) := rfl
  have whole : piecesOf .text (before ++ (quotedLiteral quote parts ++ after)) =
      ((piecesOf .text before).1 ++
        .token .string (quotedLiteral quote parts) (literalValue parts) ::
          (piecesOf (.tag tag) after).1,
        (piecesOf (.tag tag) after).2) := by
    rw [spelled, ← text, literal] at again
    exact again
  refine ⟨whole, ?_, literalValue_eq⟩
  rw [whole, placeTokens_append, spelled, placeTokens, Position.after_append]

/-- An escaped quote and an escaped backslash stand for themselves. -/
theorem string_literal_read_escapes :
    (piecesOf .text "\x7b\x7b a".toList).2 = some (.unclosedTag .output) ∧
      placeTokens .start (piecesOf .text ("\x7b\x7b a".toList ++ (quotedLiteral '\''
          [.plain 'b', .escaped '\'', .escaped '\\'] ++ " \x7d\x7d".toList))).1 =
        [⟨.outputOpen, "\x7b\x7b", ⟨1, 0⟩⟩, ⟨.name, "a", ⟨1, 3⟩⟩,
          ⟨.string, "b'\\", ⟨1, 4⟩⟩, ⟨.outputClose, "\x7d\x7d", ⟨1, 12⟩⟩] := by
  -- The text before the literal is evaluated. How the literal is read there comes from the general
  -- statement.
  have inside : (piecesOf .text "\x7b\x7b a".toList).2 = some (.unclosedTag .output) := by cbv
  have read := @string_literal_read _ " \x7d\x7d".toList _ _
    [.plain 'b', .escaped '\'', .escaped '\\'] inside (.inl rfl) (by simp [LiteralPart.MayStand])
  refine ⟨inside, read.2.1.trans ?_⟩
  cbv

/-- An escaped line end stands for a line end, but the value of its literal keeps the backslash. -/
theorem escaped_line_end_kept :
    quotedLiteral '\'' [.escaped '\n'] = "'\\\n'".toList ∧
      tokenize "\x7b\x7b '\\\n' \x7d\x7d" =
        .ok [⟨.outputOpen, "\x7b\x7b", ⟨1, 0⟩⟩, ⟨.string, "\\\n", ⟨1, 3⟩⟩,
          ⟨.outputClose, "\x7d\x7d", ⟨2, 2⟩⟩, ⟨.endOfInput, "", ⟨2, 4⟩⟩] ∧
      "\\\n" ≠ String.ofList ([LiteralPart.escaped '\n'].map LiteralPart.meaning) := by
  -- The reading is evaluated: the backslash is still in the value.
  refine ⟨by decide, ?_, by decide⟩
  cbv

end

end Stencil
