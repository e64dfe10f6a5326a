import Stencil.Snippet

/-! The lines that line feeds cut a text into, and when the lines shown to a reader are these. -/

namespace Stencil

/-- The lines of a text as they are counted: only a line feed ends one. -/
def countedLines (text : List Char) : List (List Char) :=
  text.splitOn '\n'

/-- A line without the carriage return that it may end in. -/
def withoutReturn (line : List Char) : List Char :=
  if line.getLast? = some '\r' then line.dropLast else line

/-- No character within a line ends a line; a carriage return at its end is none within it. -/
def IsPlain (line : List Char) : Prop :=
  ∀ char ∈ withoutReturn line, isLineEnd char = false

instance (line : List Char) : Decidable (IsPlain line) :=
  -- Only the characters of the line are gone through.
  List.decidableBAll (fun char => isLineEnd char = false) (withoutReturn line)

/-- So many counted lines from the start of a source are plain. -/
def PlainTo (source : String) (count : Nat) : Prop :=
  ∀ line ∈ (countedLines source.toList).take count, IsPlain line

instance (source : String) (count : Nat) : Decidable (PlainTo source count) :=
  List.decidableBAll IsPlain ((countedLines source.toList).take count)

/-- A numbered row shows the line of a source that is counted under its number. -/
def ShowsCounted (source : String) (row : Int × String) : Prop :=
  ∃ (index : Nat) (line : List Char), row.1 = index + 1 ∧
    (countedLines source.toList)[index]? = some line ∧ row.2.toList = withoutReturn line

variable {text front rest line : List Char}

/-- A text without a line feed is one counted line. -/
theorem countedLines_single (none : '\n' ∉ text) : countedLines text = [text] :=
  -- Without a line feed there is one line.
  List.splitOn_eq_singleton none

/-- The first counted line stands in front of the first line feed. -/
theorem countedLines_first (none : '\n' ∉ front) :
    countedLines (front ++ '\n' :: rest) = front :: countedLines rest :=
  -- The first line ends at the first line feed.
  List.splitOn_append_cons_self_of_not_mem none rest

/-- A line is its characters in front of the first one that ends a line, and either nothing or one
carriage return follows them, or it is not plain. -/
theorem line_cases (line : List Char) : ∃ front : List Char,
    (∀ char ∈ front, isLineEnd char = false) ∧
      (line = front ∨ line = front ++ ['\r'] ∨ ∃ stop back, line = front ++ stop :: back ∧
        isLineEnd stop = true ∧ (back = [] → stop ≠ '\r')) := by
  -- Walk to the first character that ends a line. A carriage return in the last place is kept
  -- apart, since there it belongs to the line feed that follows.
  induction line with
  | nil => exact ⟨[], by simp, .inl rfl⟩
  | cons char line ih =>
    cases ends : isLineEnd char with
    | true =>
      refine ⟨[], by simp, .inr ?_⟩
      by_cases last : line = [] ∧ char = '\r'
      · obtain ⟨rfl, rfl⟩ := last
        exact .inl rfl
      · exact .inr ⟨char, line, rfl, ends, fun empty same => last ⟨empty, same⟩⟩
    | false =>
      obtain ⟨front, plain, shape⟩ := ih
      refine ⟨char :: front, by simpa [ends] using plain, ?_⟩
      rcases shape with rfl | rfl | ⟨stop, back, rfl, stops, more⟩
      · exact .inl rfl
      · exact .inr (.inl rfl)
      · exact .inr (.inr ⟨stop, back, rfl, stops, more⟩)

/-- A line without characters that end lines is kept as it is. -/
theorem withoutReturn_plain (plain : ∀ char ∈ front, isLineEnd char = false) :
    withoutReturn front = front := by
  unfold withoutReturn
  rw [if_neg]
  intro last
  -- A carriage return ends a line.
  have ends := plain '\r' (List.mem_of_getLast? last)
  revert ends
  decide

/-- The carriage return at the end of a line is taken off. -/
theorem withoutReturn_return (front : List Char) : withoutReturn (front ++ ['\r']) = front := by
  -- The carriage return is the last character.
  simp [withoutReturn]

/-- A character that ends a line stays in it, unless it is a carriage return at its end. -/
theorem mem_withoutReturn {stop : Char} {back : List Char} (more : back = [] → stop ≠ '\r') :
    stop ∈ withoutReturn (front ++ stop :: back) := by
  unfold withoutReturn
  split
  case isFalse => simp
  case isTrue last =>
    -- What is taken off is the end of the characters behind.
    cases back with
    | nil => exact absurd (by simpa using last) (more rfl)
    | cons char back => simp [List.dropLast_append_of_ne_nil]

/-- A character that ends no line is put in front of the first line. -/
theorem splitLines_cons {char : Char} {lines : List (List Char)} (plain : isLineEnd char = false)
    (cut : splitLines rest = line :: lines) :
    splitLines (char :: rest) = (char :: line) :: lines := by
  rw [splitLines]
  · simp [plain, cut]
  · -- A carriage return ends a line, so this is not the pair of it and a line feed.
    rintro _ rfl rfl
    revert plain
    decide

/-- Characters that end no line are put in front of the first line. -/
theorem splitLines_append {lines : List (List Char)}
    (plain : ∀ char ∈ front, isLineEnd char = false) (cut : splitLines rest = line :: lines) :
    splitLines (front ++ rest) = (front ++ line) :: lines := by
  -- Characters that end no line go to the front of the first line, one at a time.
  induction front with
  | nil => exact cut
  | cons char front ih =>
    have behind := ih fun other member => plain other (by simp [member])
    exact splitLines_cons (plain char (by simp)) behind

/-- A character that ends a line ends the first one. -/
theorem splitLines_stop {stop : Char} (stops : isLineEnd stop = true) (rest : List Char) :
    ∃ lines, splitLines (stop :: rest) = [] :: lines := by
  -- An end of a line at the front leaves an empty first line, also when a line feed follows a
  -- carriage return.
  rw [splitLines.eq_def]
  split
  · contradiction
  · exact ⟨_, rfl⟩
  · rename_i same
    cases same
    exact ⟨_, by rw [if_pos stops]⟩

/-- No line that is shown holds a character that ends lines. -/
theorem splitLines_none (shown : line ∈ splitLines text) :
    ∀ char ∈ line, isLineEnd char = false := by
  -- Induction along the cutting itself: a line is closed exactly when such a character is met.
  induction text using splitLines.induct generalizing line with
  | case1 => simp [splitLines] at shown
  | case2 rest ih =>
    rw [splitLines] at shown
    rcases List.mem_cons.1 shown with rfl | shown
    · simp
    · exact ih shown
  | case3 char rest pair ends ih =>
    rw [splitLines, if_pos ends] at shown
    · rcases List.mem_cons.1 shown with rfl | shown
      · simp
      · exact ih shown
    · exact pair
  | case4 char rest pair ends empty ih =>
    rw [splitLines, if_neg ends, empty] at shown
    · obtain rfl : line = [char] := by simpa using shown
      simpa using ends
    · exact pair
  | case5 char rest pair ends first lines cut ih =>
    rw [splitLines, if_neg ends, cut] at shown
    · rcases List.mem_cons.1 shown with rfl | shown
      · have among : first ∈ splitLines rest := by simp [cut]
        simpa [ends] using ih among
      · exact ih (by simp [cut, shown])
    · exact pair

/-- Characters that end no line are one line, if there are any. -/
theorem splitLines_plain (plain : ∀ char ∈ front, isLineEnd char = false) (some : front ≠ []) :
    splitLines front = [front] := by
  -- Without an end of a line there is one line, provided there is text at all.
  induction front with
  | nil => exact absurd rfl some
  | cons char front ih =>
    cases front with
    | nil =>
      have other : isLineEnd char = false := plain char (by simp)
      rw [splitLines, if_neg (by simp [other]), splitLines]
      rintro rest _ same
      cases same
    | cons next front =>
      have behind := ih (fun other member => plain other (by simp [member])) (by simp)
      exact splitLines_cons (plain char (by simp)) behind

/-- A plain line that a line feed ends is shown as it is counted, without its carriage return. -/
theorem splitLines_feed (plain : IsPlain line) (rest : List Char) :
    splitLines (line ++ '\n' :: rest) = withoutReturn line :: splitLines rest := by
  have feed : splitLines ('\n' :: rest) = [] :: splitLines rest := rfl
  obtain ⟨front, none, rfl | rfl | ⟨stop, back, rfl, stops, more⟩⟩ := line_cases line
  · rw [withoutReturn_plain none]
    simpa using splitLines_append none feed
  · -- The carriage return and the line feed end the line together.
    have both : splitLines ('\r' :: '\n' :: rest) = [] :: splitLines rest := by rw [splitLines]
    rw [withoutReturn_return]
    simpa using splitLines_append none both
  · have ends := plain stop (mem_withoutReturn more)
    rw [stops] at ends
    contradiction

/-- A plain line at the end of a text is shown as it is counted, unless it is empty. -/
theorem splitLines_last (plain : IsPlain line) :
    splitLines line = [] ∨ splitLines line = [withoutReturn line] := by
  -- Of the three shapes of a line the plain one is cut as it is, the one with a carriage return
  -- loses it, and the third is excluded because its stop would be in the text without the return.
  obtain ⟨front, none, rfl | rfl | ⟨stop, back, rfl, stops, more⟩⟩ := line_cases line
  · rw [withoutReturn_plain none]
    by_cases empty : line = []
    · exact .inl (by rw [empty, splitLines])
    · exact .inr (splitLines_plain none empty)
  · have alone : splitLines ['\r'] = [[]] := by decide
    rw [withoutReturn_return]
    exact .inr (by simpa using splitLines_append none alone)
  · have ends := plain stop (mem_withoutReturn more)
    rw [stops] at ends
    contradiction

/-- What is shown of a line that is not plain ends before the line does. -/
theorem splitLines_cut (other : ¬IsPlain line) (rest : List Char) :
    ∃ shown lines, splitLines (line ++ rest) = shown :: lines ∧ shown ≠ withoutReturn line := by
  obtain ⟨front, none, rfl | rfl | ⟨stop, back, rfl, stops, more⟩⟩ := line_cases line
  · exact absurd (by rwa [IsPlain, withoutReturn_plain none]) other
  · exact absurd (by rwa [IsPlain, withoutReturn_return]) other
  · obtain ⟨lines, cut⟩ := splitLines_stop stops (back ++ rest)
    refine ⟨front, lines, ?_, ?_⟩
    · simpa using splitLines_append none cut
    · -- The character that ends the shown line is counted as one of the line.
      intro same
      have ends := none stop (same ▸ mem_withoutReturn more)
      rw [stops] at ends
      contradiction

/-- Behind plain lines a shown line has a counted one beside it, and it is the same exactly if that
one is plain as well. -/
theorem splitLines_counted {index : Nat} {shown : List Char}
    (row : (splitLines text)[index]? = some shown)
    (before : ∀ line ∈ (countedLines text).take index, IsPlain line) :
    ∃ line, (countedLines text)[index]? = some line ∧
      (shown = withoutReturn line ↔ IsPlain line) := by
  induction index generalizing text with
  | zero =>
    -- The first counted line ends at the first line feed or at the end of the text.
    obtain ⟨line, rest, rfl, counted, none⟩ : ∃ line rest, text = line ++ rest ∧
        (countedLines text)[0]? = some line ∧ (rest = [] ∨ ∃ more, rest = '\n' :: more) := by
      by_cases feed : '\n' ∈ text
      · obtain ⟨line, more, rfl, none⟩ := List.eq_append_cons_of_mem feed
        exact ⟨line, _, rfl, by simp [countedLines_first none], .inr ⟨more, rfl⟩⟩
      · exact ⟨text, [], by simp, by simp [countedLines_single feed], .inl rfl⟩
    refine ⟨line, counted, ?_⟩
    by_cases plain : IsPlain line
    · simp only [plain, iff_true]
      rcases none with rfl | ⟨more, rfl⟩
      · rw [List.append_nil] at row
        rcases splitLines_last plain with cut | cut <;> simp_all
      · simpa [splitLines_feed plain, eq_comm] using row
    · obtain ⟨first, lines, cut, differs⟩ := splitLines_cut plain rest
      simp_all
  | succ index ih =>
    by_cases feed : '\n' ∈ text
    · obtain ⟨line, more, rfl, none⟩ := List.eq_append_cons_of_mem feed
      rw [countedLines_first none] at before ⊢
      have plain := before line (by simp)
      rw [splitLines_feed plain] at row
      simpa using ih (by simpa using row) fun line member => before line (by simp [member])
    · -- A text of one plain line has no second line to show.
      rw [countedLines_single feed] at before
      have plain := before text (by simp)
      rcases splitLines_last plain with cut | cut <;> simp [cut] at row

/-- A numbered row holds a line of the text under one more than its index. -/
theorem mem_numberLines {lines : List String} {row : Int × String} :
    row ∈ numberLines lines ↔ ∃ index : Nat, row.1 = index + 1 ∧ lines[index]? = some row.2 := by
  -- Lines are numbered from one, in the order of the list.
  simp only [numberLines, List.mem_map, List.mem_zipIdx_iff_getElem?, Prod.exists]
  constructor
  · rintro ⟨text, index, found, rfl⟩
    exact ⟨index, rfl, found⟩
  · rintro ⟨index, number, found⟩
    exact ⟨row.2, index, found, Prod.ext number.symm rfl⟩

/-- The row under a number shows the line of a source that is counted there exactly if that line
is plain, when all lines before it are. -/
theorem showsCounted_iff {source : String} {row : Int × String}
    (shown : row ∈ numberLines (linesOf source)) (before : PlainTo source (row.1 - 1).toNat) :
    ShowsCounted source row ↔ PlainTo source row.1.toNat := by
  -- The lines before are plain, so the row with this number shows a part of the counted line with
  -- the same number. It shows all of it just if that line is plain too.
  obtain ⟨index, number, found⟩ := mem_numberLines.1 shown
  obtain ⟨text, cut, written⟩ : ∃ text, (splitLines source.toList)[index]? = some text ∧
      String.ofList text = row.2 := by simpa [linesOf] using found
  have last : (row.1 - 1).toNat = index := by omega
  have all : row.1.toNat = index + 1 := by omega
  rw [last] at before
  obtain ⟨line, counted, told⟩ := splitLines_counted cut before
  have shows : ShowsCounted source row ↔ text = withoutReturn line := by
    constructor
    · rintro ⟨other, _, which, there, same⟩
      obtain rfl : other = index := by omega
      rw [counted] at there
      cases there
      rw [← same, ← written, String.toList_ofList]
    · intro equal
      exact ⟨index, line, number, counted, by rw [← written, String.toList_ofList, equal]⟩
  rw [shows, told, PlainTo, all, List.take_add_one, counted]
  constructor
  · intro plain other member
    rcases List.mem_append.1 member with member | member
    · exact before other member
    · obtain rfl : other = line := by simpa using member
      exact plain
  · intro plain
    exact plain line (by simp)

/-- All rows to a number show the lines that are counted exactly if these lines are plain. -/
theorem allShowCounted_iff {source : String} {row : Int × String}
    (shown : row ∈ numberLines (linesOf source)) :
    (∀ other ∈ numberLines (linesOf source), other.1 ≤ row.1 → ShowsCounted source other) ↔
      PlainTo source row.1.toNat := by
  obtain ⟨last, number, found⟩ := mem_numberLines.1 shown
  constructor
  · intro all
    -- The induction is on how many lines are known to be plain.
    have step : ∀ count ≤ last + 1, PlainTo source count := by
      intro count
      induction count with
      | zero => simp [PlainTo]
      | succ count ih =>
        intro within
        obtain ⟨lastWithin, _⟩ := List.getElem?_eq_some_iff.1 found
        have among : ((count : Int) + 1, (linesOf source)[count]) ∈ numberLines (linesOf source) :=
          mem_numberLines.2 ⟨count, rfl, by simp⟩
        have plain := (showsCounted_iff among (by simpa using ih (by omega))).1
          (all _ among (by simp only; omega))
        have same : ((count : Int) + 1).toNat = count + 1 := by omega
        rwa [same] at plain
    exact step _ (by omega)
  · intro plain other among least
    have fewer : ∀ count ≤ row.1.toNat, PlainTo source count := fun count within line member =>
      plain line (List.take_subset_take_left _ within member)
    exact (showsCounted_iff among (fewer _ (by omega))).2 (fewer _ (by omega))

end Stencil
