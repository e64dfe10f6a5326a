import Stencil.Token.Piece

/-! Templates are cut into tokens, and the pieces of a template make up its whole text. -/

namespace Stencil

/-- Plain text and what follows it make up the text. -/
theorem splitData_append (text : List Char) :
    (splitData text).1 ++ (splitData text).2 = text := by
  -- Follow the search for an opener: each step moves one character into the data.
  fun_induction splitData text with
  | case1 => rfl
  | case2 => rfl
  | case3 => rfl
  | case4 first second rest _ data tail split ih =>
    rw [split] at ih
    simpa using ih

/-- A comment and what follows it make up the text. -/
theorem splitComment_append {text body rest : List Char}
    (split : splitComment text = some (body, rest)) : body ++ rest = text := by
  -- The body keeps its end mark, so nothing is lost in the split.
  fun_induction splitComment text generalizing body rest with
  | case1 =>
    cases split
    rfl
  | case2 => simp at split
  | case3 char tail _ ih =>
    obtain ⟨⟨inner, after⟩, found, same⟩ := Option.map_eq_some_iff.1 split
    cases same
    simpa using ih found

/-- A string, its closing quote and what follows make up the text. -/
theorem splitString_append {quote : Char} {text body rest : List Char}
    (split : splitString quote text = some (body, rest)) : body ++ quote :: rest = text := by
  -- The closing quote is dropped by the split and put back here.
  fun_induction splitString quote text generalizing body rest with
  | case1 => simp at split
  | case2 => simp_all
  | case3 => simp at split
  | case4 _ kept tail ih =>
    obtain ⟨⟨inner, after⟩, found, same⟩ := Option.map_eq_some_iff.1 split
    cases same
    simpa using ih found
  | case5 char tail _ _ ih =>
    obtain ⟨⟨inner, after⟩, found, same⟩ := Option.map_eq_some_iff.1 split
    cases same
    simpa using ih found

/-- A number and what follows it make up the text. -/
theorem numberPiece_append (text : List Char) :
    (numberPiece text).1.spelling ++ (numberPiece text).2 = text := by
  -- The digits are cut where they end. When a part after the point is read, the rest is cut once
  -- more.
  unfold numberPiece
  split
  · rename_i digit rest after
    split
    · have joined := List.takeWhile_append_dropWhile (p := isDecimal) (l := text)
      rw [after] at joined
      simpa [Piece.plain, Piece.spelling] using joined
    · have joined := List.takeWhile_append_dropWhile (p := isDecimal) (l := text)
      rw [after] at joined
      simpa [Piece.plain, Piece.spelling] using joined
  · simp [Piece.plain, Piece.spelling]

/-- A sign and what follows it make up the text. -/
theorem signPiece_append {tag : Tag} {char : Char} {rest tail : List Char} {piece : Piece}
    {zone : Zone} (read : signPiece tag char rest = .piece piece zone tail) :
    piece.spelling ++ tail = char :: rest := by
  -- A sign is the one character it was found under.
  unfold signPiece at read
  split at read
  · cases read
    rfl
  · cases read

/-- An operand and what follows it make up the text. -/
theorem operandPiece_append {tag : Tag} {char : Char} {rest tail : List Char} {piece : Piece}
    {zone : Zone} (read : operandPiece tag char rest = .piece piece zone tail) :
    piece.spelling ++ tail = char :: rest := by
  -- Each kind of operand cuts the text where its own search ends.
  unfold operandPiece at read
  split at read
  · split at read
    · rename_i found
      cases read
      simpa [Piece.spelling] using splitString_append found
    · exact signPiece_append read
  · split at read
    · cases read
      simp [Piece.plain, Piece.spelling]
    · split at read
      · cases read
        exact numberPiece_append (char :: rest)
      · exact signPiece_append read

/-- A piece of plain text and what follows it make up the text. -/
theorem nextInText_append {text rest : List Char} {piece : Piece} {zone : Zone}
    (read : nextInText text = .piece piece zone rest) : piece.spelling ++ rest = text := by
  -- Openers spell two characters, comments and data what their searches cut off.
  unfold nextInText at read
  split at read
  · cases read
  · cases read; rfl
  · cases read; rfl
  · split at read
    · rename_i found
      cases read
      simpa [Piece.spelling] using splitComment_append found
    · cases read
  · cases read
    exact splitData_append _

/-- A piece of a tag and what follows it make up the text. -/
theorem nextInTag_append {tag : Tag} {text rest : List Char} {piece : Piece} {zone : Zone}
    (read : nextInTag tag text = .piece piece zone rest) : piece.spelling ++ rest = text := by
  unfold nextInTag at read
  split at read
  · cases read
  · split at read
    · cases read
      simp [Piece.spelling]
    · split at read
      · rename_i closes
        cases read
        -- The closer has two characters, and the text starts with them.
        obtain ⟨tail, same⟩ := List.isPrefixOf_iff_prefix.1 closes
        rw [← same]
        cases tag <;> simp [Piece.plain, Piece.spelling, Tag.closer]
      · exact operandPiece_append read

/-- A piece and what follows it make up the text. -/
theorem nextPiece_append {zone after : Zone} {text rest : List Char} {piece : Piece}
    (read : nextPiece zone text = .piece piece after rest) : piece.spelling ++ rest = text := by
  -- The zone decides which of the two readings cut the text.
  cases zone with
  | text => exact nextInText_append read
  | tag tag => exact nextInTag_append read

/-- Plain text is cut only before what opens a tag or a comment. -/
theorem splitData_ne_nil {text : List Char} (nonempty : text ≠ [])
    (plain : ∀ first second rest, text = first :: second :: rest → isOpener first second = false) :
    (splitData text).1 ≠ [] := by
  -- Data ends only before an opener, and the text does not start with one.
  match text with
  | [] => exact absurd rfl nonempty
  | [char] => simp [splitData]
  | first :: second :: rest =>
    simp [splitData, plain first second rest rfl]

/-- No number is empty when the text starts with a digit. -/
theorem numberPiece_spelling_ne_nil {char : Char} {rest : List Char}
    (digit : isDecimal char = true) :
    (numberPiece (char :: rest)).1.spelling ≠ [] := by
  -- The first digit is always part of the number.
  unfold numberPiece
  split
  · split <;> simp [Piece.plain, Piece.spelling, digit]
  · simp [Piece.plain, Piece.spelling, digit]

/-- No sign is empty. -/
theorem signPiece_spelling_ne_nil {tag : Tag} {char : Char} {rest tail : List Char} {piece : Piece}
    {zone : Zone} (read : signPiece tag char rest = .piece piece zone tail) :
    piece.spelling ≠ [] := by
  -- A sign spells itself.
  unfold signPiece at read
  split at read
  · cases read
    simp [Piece.plain, Piece.spelling]
  · cases read

/-- No operand is empty. -/
theorem operandPiece_spelling_ne_nil {tag : Tag} {char : Char} {rest tail : List Char}
    {piece : Piece} {zone : Zone} (read : operandPiece tag char rest = .piece piece zone tail) :
    piece.spelling ≠ [] := by
  -- A string keeps its quotes, a name its first letter, a number its first digit.
  unfold operandPiece at read
  split at read
  · split at read
    · cases read
      simp [Piece.spelling]
    · exact signPiece_spelling_ne_nil read
  · split at read
    · cases read
      simp [Piece.plain, Piece.spelling]
    · split at read
      · rename_i digit
        cases read
        exact numberPiece_spelling_ne_nil digit
      · exact signPiece_spelling_ne_nil read

/-- No piece of plain text is empty. -/
theorem nextInText_spelling_ne_nil {text rest : List Char} {piece : Piece} {zone : Zone}
    (read : nextInText text = .piece piece zone rest) : piece.spelling ≠ [] := by
  unfold nextInText at read
  split at read
  · cases read
  · cases read; simp [Piece.plain, Piece.spelling]
  · cases read; simp [Piece.plain, Piece.spelling]
  · split at read
    · cases read; simp [Piece.spelling]
    · cases read
  · rename_i nonempty output block comment
    cases read
    -- What is no opener starts a stretch of plain text.
    refine splitData_ne_nil nonempty fun first second rest same => ?_
    simp only [isOpener, Bool.and_eq_false_iff, Bool.or_eq_false_iff, decide_eq_false_iff_not]
    by_cases brace : first = '{'
    · subst brace
      exact .inr ⟨⟨fun mark => output rest (mark ▸ same), fun mark => block rest (mark ▸ same)⟩,
        fun mark => comment rest (mark ▸ same)⟩
    · exact .inl brace

/-- No piece of a tag is empty. -/
theorem nextInTag_spelling_ne_nil {tag : Tag} {text rest : List Char} {piece : Piece} {zone : Zone}
    (read : nextInTag tag text = .piece piece zone rest) : piece.spelling ≠ [] := by
  -- A gap opens with the blank that was seen, and a closer has two characters.
  unfold nextInTag at read
  split at read
  · cases read
  · split at read
    · cases read; simp [Piece.spelling]
    · split at read
      · cases read
        cases tag <;> simp [Piece.plain, Piece.spelling, Tag.closer]
      · exact operandPiece_spelling_ne_nil read

/-- No piece is empty. -/
theorem nextPiece_spelling_ne_nil {zone after : Zone} {text rest : List Char} {piece : Piece}
    (read : nextPiece zone text = .piece piece after rest) : piece.spelling ≠ [] := by
  -- The same in both zones.
  cases zone with
  | text => exact nextInText_spelling_ne_nil read
  | tag tag => exact nextInTag_spelling_ne_nil read

/-- What follows a piece is shorter than the text. -/
theorem nextPiece_shorter {zone after : Zone} {text rest : List Char} {piece : Piece}
    (read : nextPiece zone text = .piece piece after rest) : rest.length < text.length := by
  -- The piece and the rest make up the text, and the piece takes at least one character of it.
  have joined := congrArg List.length (nextPiece_append read)
  have := List.length_pos_iff.2 (nextPiece_spelling_ne_nil read)
  rw [List.length_append] at joined
  omega

/-- The pieces of a text up to its end or to a problem. -/
def piecesOf (zone : Zone) (text : List Char) : List Piece × Option LexProblem :=
  -- The step is kept by name, since the recursion ends because it takes characters.
  match _read : nextPiece zone text with
  | .finished => ([], none)
  | .problem problem => ([], some problem)
  | .piece piece after rest =>
    let (pieces, ending) := piecesOf after rest
    (piece :: pieces, ending)
termination_by text.length
decreasing_by exact nextPiece_shorter (by assumption)

/-- The tokens among pieces, each at the place where it starts. -/
def placeTokens (position : Position) : List Piece → List Token
  | [] => []
  | .gap spelling :: pieces => placeTokens (position.after spelling) pieces
  | .token kind spelling value :: pieces =>
    ⟨kind, String.ofList value, position⟩ :: placeTokens (position.after spelling) pieces

/-- The text that pieces take up together. -/
def spellingOf (pieces : List Piece) : List Char :=
  pieces.flatMap Piece.spelling

/-- A text that cannot be cut into tokens, with the place where the reader stopped. -/
structure LexFault where
  problem : LexProblem
  position : Position
  deriving DecidableEq

/-- The tokens of a template, closed by the end of its text. -/
def tokenize (source : String) : Except LexFault (List Token) :=
  let (pieces, ending) := piecesOf .text source.toList
  let position := Position.start.after (spellingOf pieces)
  match ending with
  | some problem => .error ⟨problem, position⟩
  | none => .ok (placeTokens .start pieces ++ [⟨.endOfInput, "", position⟩])

end Stencil
