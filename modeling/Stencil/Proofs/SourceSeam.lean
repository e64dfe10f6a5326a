import Stencil.Proofs.Lookahead

/-! Two texts one behind the other have the pieces of both, with the data at the seam joined. -/

namespace Stencil

/-- The pieces of a text that opens nothing: one, or none if it is empty. -/
def dataPieces (text : List Char) : List Piece :=
  if text = [] then [] else [.plain .data text]

/-- A text is cut into pieces that stay as they are whatever stands behind them, and plain text. -/
structure Trails (zone : Zone) (text : List Char) (closed : List Piece) (plain : List Char) :
    Prop where
  pieces : piecesOf zone text = (closed ++ dataPieces plain, none)
  joined : spellingOf closed ++ plain = text
  opensNothing : OpensNothing plain
  -- Two characters are as many as a piece is ever cut off by.
  long : zone = .text ∧ closed = [] ∨ 2 ≤ (spellingOf closed).length
  again : ∀ other, piecesOf zone (spellingOf closed ++ other) =
    (closed ++ (piecesOf .text other).1, (piecesOf .text other).2)

/-- The end of a text has no pieces. -/
theorem piecesOf_nil : piecesOf .text [] = ([], none) := by
  -- There is nothing to read.
  rw [piecesOf.eq_def]
  rfl

/-- Nothing in the empty text opens anything. -/
theorem OpensNothing.nil : OpensNothing [] := by
  -- An opener has two characters.
  simp [OpensNothing]

/-- A text that is plain, and stops before the rest, is cut into its piece and those of the rest. -/
theorem piecesOf_plain {plain rest : List Char} (opensNothing : OpensNothing plain)
    (stops : StopsBefore plain rest) :
    piecesOf .text (plain ++ rest) =
      (dataPieces plain ++ (piecesOf .text rest).1, (piecesOf .text rest).2) := by
  -- Text without an opener is one piece of data, and an empty one is none.
  by_cases empty : plain = []
  · subst empty
    rfl
  · have read : nextPiece .text (plain ++ rest) = .piece (.plain .data plain) .text rest :=
      nextInText_plain opensNothing empty stops
    rw [piecesOf_cons read, dataPieces, if_neg empty]
    rfl

section

variable {zone after : Zone} {text rest plain : List Char} {piece : Piece} {closed : List Piece}

/-- Nothing stands behind the end of a text. -/
theorem Trails.nil : Trails .text [] [] [] where
  -- Nothing is cut off.
  pieces := piecesOf_nil
  joined := rfl
  opensNothing := .nil
  long := .inl ⟨rfl, rfl⟩
  again _ := rfl

/-- A piece that stays as it is may be put in front of others that do. -/
theorem Trails.cons (trails : Trails after rest closed plain)
    (read : nextPiece zone text = .piece piece after rest)
    (stays : ∀ other, nextPiece zone (piece.spelling ++ (spellingOf closed ++ other)) =
      .piece piece after (spellingOf closed ++ other))
    (long : 2 ≤ piece.spelling.length ∨ closed ≠ []) :
    Trails zone text (piece :: closed) plain where
  -- The piece stays where it is before any other text, so it can be put in front of what trails
  -- behind it.
  pieces := by
    rw [piecesOf_cons read, trails.pieces]
    rfl
  joined := by
    rw [← nextPiece_append read, ← trails.joined]
    simp [spellingOf]
  opensNothing := trails.opensNothing
  long := by
    refine .inr ?_
    have spelled : spellingOf (piece :: closed) = piece.spelling ++ spellingOf closed := rfl
    rw [spelled, List.length_append]
    rcases long with long | some
    · omega
    · have := trails.long.resolve_left fun none => some none.2
      omega
  again other := by
    have spelled : spellingOf (piece :: closed) = piece.spelling ++ spellingOf closed := rfl
    rw [spelled, List.append_assoc, piecesOf_cons (stays other), trails.again other]
    rfl

/-- What stands behind at least two characters begins with them whatever follows. -/
theorem Trails.take_two (trails : Trails zone text closed plain) (some : closed ≠ [])
    (other : List Char) : text.take 2 = (spellingOf closed ++ other).take 2 := by
  -- The closed part has two characters at least, and it starts both texts.
  have long := trails.long.resolve_left fun none => some none.2
  rw [← trails.joined, List.take_append_of_le_length long, List.take_append_of_le_length long]

/-- Data is in front of pieces that stay as they are, or there is nothing behind it. -/
theorem Trails.data {data : List Char} (trails : Trails .text rest closed plain)
    (read : nextPiece .text text = .piece (.plain .data data) .text rest) (full : data ≠ [])
    (opensNothing : OpensNothing data) : ∃ closed plain, Trails .text text closed plain := by
  by_cases none : closed = []
  · subst none
    have joined := trails.joined
    have stops := nextInText_stops read
    -- Plain text does not start with what data would stop before.
    obtain rfl : rest = [] := by
      rcases stops with ended | ⟨⟨mark, more, rfl, opens⟩, _⟩
      · exact ended
      · have plain : OpensNothing ('{' :: mark :: more) := joined ▸ trails.opensNothing
        exact absurd plain.first (by simp [opens])
    have whole : data = text := by simpa [Piece.plain, Piece.spelling] using nextPiece_append read
    refine ⟨[], data, ⟨?_, whole, opensNothing, .inl ⟨rfl, rfl⟩, fun other => rfl⟩⟩
    rw [piecesOf_cons read, piecesOf_nil, dataPieces, if_neg full]
    rfl
  · refine ⟨_, _, trails.cons read (fun other => ?_) (.inr none)⟩
    exact nextInText_plain opensNothing full
      ((nextInText_stops read).take_two (trails.take_two none other))

/-- The pieces that stay as they are lead back to plain text. -/
theorem Trails.follow (trails : Trails zone text closed plain) : Follow zone closed .text := by
  -- They are all the pieces of the text that they make up.
  have alone := trails.again []
  rw [piecesOf_nil, List.append_nil, List.append_nil] at alone
  obtain ⟨last, left, follow, _, ended, _⟩ := piecesOf_follow zone (spellingOf closed)
  rw [alone] at follow ended
  obtain ⟨rfl, _⟩ := ended rfl
  exact follow

/-- A text that is finished is cut into pieces that stay as they are, and plain text behind them. -/
theorem piecesOf_trails (finished : (piecesOf zone text).2 = none) :
    ∃ closed plain, Trails zone text closed plain := by
  -- The induction is on what is left of the text behind each piece.
  fun_induction piecesOf zone text with
  | case1 zone text read =>
    obtain ⟨rfl, rfl⟩ := nextPiece_finished read
    exact ⟨[], [], .nil⟩
  | case2 => cases finished
  | case3 zone text piece after rest read pieces ending found ih =>
    obtain ⟨closed, plain, trails⟩ := ih (by rw [found]; exact finished)
    have inTag (tag : Tag) (same : zone = .tag tag) (inside : after = .tag tag) :
        ∃ closed plain, Trails zone text closed plain := by
      subst same inside
      -- The tag is still to be closed, so that two characters are known.
      have some : closed ≠ [] := by
        rintro rfl
        rcases trails.long with ⟨impossible, _⟩ | long
        · cases impossible
        · simp [spellingOf] at long
      exact ⟨_, _, trails.cons read (fun other => nextInTag_again read (trails.take_two some other))
        (.inr some)⟩
    have stands := nextPiece_stands read
    cases stands with
    | data full opensNothing => exact trails.data read full opensNothing
    | comment apart =>
      exact ⟨_, _, trails.cons read (fun other => nextInText_comment apart _)
        (.inl (by simp [Piece.spelling]))⟩
    | opening tag =>
      exact ⟨_, _, trails.cons read (fun other => nextInText_opener tag _)
        (.inl (by simp [Piece.plain, Piece.spelling, Tag.opener]))⟩
    | closing tag =>
      exact ⟨_, _, trails.cons read (fun other => nextInTag_closer tag _)
        (.inl (by cases tag <;> simp [Piece.plain, Piece.spelling, Tag.closer]))⟩
    | blanks | name | integer | float | string | sign => exact inTag _ rfl rfl

end

/-- The pieces of a text that is finished make it up. -/
theorem spellingOf_piecesOf {zone : Zone} {text : List Char}
    (finished : (piecesOf zone text).2 = none) : spellingOf (piecesOf zone text).1 = text := by
  -- Without a problem nothing is left of the text.
  obtain ⟨_, left, _, joined, ended, _⟩ := piecesOf_follow zone text
  obtain ⟨_, rfl⟩ := ended finished
  rwa [List.append_nil] at joined

/-- A text that is finished starts with plain text, and goes on with what opens something. -/
theorem piecesOf_leads {text : List Char} (finished : (piecesOf .text text).2 = none) :
    ∃ plain others, (piecesOf .text text).1 = dataPieces plain ++ others ∧
      plain ++ spellingOf others = text ∧ OpensNothing plain ∧
      StopsBefore plain (spellingOf others) ∧
      piecesOf .text (spellingOf others) = (others, none) := by
  have whole := spellingOf_piecesOf finished
  cases read : nextPiece .text text with
  | finished =>
    obtain ⟨_, rfl⟩ := nextPiece_finished read
    exact ⟨[], [], by simp [piecesOf_nil, dataPieces], rfl, .nil, .inl rfl, piecesOf_nil⟩
  | problem problem =>
    rw [piecesOf.eq_def] at finished
    split at finished <;> simp_all
  | piece piece after rest =>
    have first := piecesOf_cons read
    -- What opens something is no data, so that the pieces are all behind the plain text.
    have opened (opens : ∃ mark more, piece.spelling = '{' :: mark :: more ∧
        isOpener '{' mark = true) :
        ∃ plain others, (piecesOf .text text).1 = dataPieces plain ++ others ∧
          plain ++ spellingOf others = text ∧ OpensNothing plain ∧
          StopsBefore plain (spellingOf others) ∧
          piecesOf .text (spellingOf others) = (others, none) := by
      obtain ⟨mark, more, spelled, opener⟩ := opens
      refine ⟨[], (piecesOf .text text).1, rfl, whole, .nil, ?_, ?_⟩
      · rw [whole, ← nextPiece_append read, spelled]
        exact .inr ⟨⟨mark, _, rfl, opener⟩, by simp⟩
      · rw [whole]
        exact Prod.ext rfl finished
    have joined := nextPiece_append read
    have stands := nextPiece_stands read
    cases stands with
    | @data data full opensNothing =>
      rw [first] at finished ⊢
      have left := spellingOf_piecesOf finished
      refine ⟨data, (piecesOf .text rest).1, by simp [dataPieces, full], ?_, opensNothing, ?_, ?_⟩
      · rw [left]
        exact joined
      · rw [left]
        exact nextInText_stops read
      · rw [left]
        exact Prod.ext rfl finished
    | comment => exact opened ⟨'#', _, rfl, rfl⟩
    | opening tag => exact opened ⟨tag.mark, [], rfl, by cases tag <;> rfl⟩

/-- Two texts meet in what opens something if neither of them holds it by itself. -/
def MeetsOpening (first second : List Char) : Prop :=
  first.getLast? = some '{' ∧ ∃ mark ∈ ['{', '%', '#'], second.head? = some mark

/-- Plain texts that do not meet in what opens something are one plain text. -/
theorem OpensNothing.append {first second : List Char} (left : OpensNothing first)
    (right : OpensNothing second) (apart : ¬ MeetsOpening first second) :
    OpensNothing (first ++ second) := by
  induction first with
  | nil => exact right
  | cons char first ih =>
    intro mark marked held
    rcases List.infix_cons_iff.1 held with ⟨more, same⟩ | later
    · -- A pair at the start is either in the first text or across the seam.
      cases first with
      | nil =>
        obtain ⟨rfl, behind⟩ := List.cons.inj same
        exact apart ⟨rfl, mark, marked, by rw [← show _ = second from behind]; rfl⟩
      | cons next first =>
        obtain ⟨rfl, behind⟩ := List.cons.inj same
        obtain ⟨rfl, _⟩ := List.cons.inj behind
        exact left mark marked ⟨[], first, rfl⟩
    · refine ih left.tail (fun meets => apart ⟨?_, meets.2⟩) mark marked later
      cases first with
      | nil => simp [MeetsOpening] at meets
      | cons next first => simpa using meets.1

/-- Two texts one behind the other have the pieces of both, with the data at the seam joined. -/
theorem piecesOf_append {first second : List Char} (finished : (piecesOf .text first).2 = none)
    (ended : (piecesOf .text second).2 = none) (apart : ¬ MeetsOpening first second) :
    ∃ front plain tail back, (piecesOf .text first).1 = front ++ dataPieces plain ∧
      (piecesOf .text second).1 = dataPieces tail ++ back ∧
      spellingOf front ++ plain = first ∧ tail ++ spellingOf back = second ∧
      Follow .text front .text ∧
      piecesOf .text (first ++ second) = (front ++ dataPieces (plain ++ tail) ++ back, none) := by
  obtain ⟨front, plain, trails⟩ := piecesOf_trails finished
  obtain ⟨tail, back, pieces, joined, opensNothing, stops, rest⟩ := piecesOf_leads ended
  refine ⟨front, plain, tail, back, by rw [trails.pieces], pieces, trails.joined, joined,
    trails.follow, ?_⟩
  -- What meets where the data is joined would meet at the seam itself.
  have last (ends : plain.getLast? = some '{') : first.getLast? = some '{' := by
    rw [← trails.joined, List.getLast?_append, ends]
    rfl
  have whole : OpensNothing (plain ++ tail) := by
    refine trails.opensNothing.append opensNothing fun ⟨ends, mark, marked, starts⟩ =>
      apart ⟨last ends, mark, marked, ?_⟩
    rw [← joined, List.head?_append, starts]
    rfl
  have before : StopsBefore (plain ++ tail) (spellingOf back) := by
    rcases stops with ended | ⟨⟨mark, more, opened, opens⟩, kept⟩
    · exact .inl ended
    · refine .inr ⟨⟨mark, more, opened, opens⟩, fun ends => ?_⟩
      rw [List.getLast?_append] at ends
      cases tail with
      | nil =>
        refine apart ⟨last (by simpa using ends), '{', by simp, ?_⟩
        rw [← joined, opened]
        rfl
      | cons char tail => exact kept (by simpa using ends)
  have text : first ++ second = spellingOf front ++ ((plain ++ tail) ++ spellingOf back) := by
    rw [← trails.joined, ← joined]
    simp
  rw [text, trails.again, piecesOf_plain whole before, rest, List.append_assoc]

end Stencil
