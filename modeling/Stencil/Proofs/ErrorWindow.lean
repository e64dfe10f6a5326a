import Mathlib.Data.Int.Range
import Stencil.Proofs.CaretRows

/-! The window of lines around an error: which lines it lists, and which row of it is marked. -/

namespace Stencil

/-- The line of a source under a number, as its lines are shown. -/
def shownLine? (source : String) (number : Int) : Option String :=
  -- Lines are numbered from one, so that nothing stands under zero or less.
  if 1 ≤ number then (linesOf source)[(number - 1).toNat]? else none

/-- The rows of a snippet as it is shown. -/
def Snippet.rows (snippet : Snippet) : List (List Char) :=
  snippet.text.toList.splitOn '\n'

/-- Whether a row has the mark of the error in front. -/
def isMarked (row : List Char) : Bool :=
  row.head? = some '>'

section

variable {source : String} {line reach number : Int} {column : Option Int} {text : String}

/-- The line that stands at an index is shown under the number behind it. -/
theorem shownLine?_index (source : String) (index : Nat) :
    shownLine? source ((index : Int) + 1) = (linesOf source)[index]? := by
  -- The number is at least one, and counting it down gives the index.
  rw [shownLine?, if_pos (by omega), Int.add_sub_cancel, Int.toNat_natCast]

/-- There is a line under each number up to that of the last line, and under no other. -/
theorem shownLine?_isSome :
    (∃ text, shownLine? source number = some text) ↔
      1 ≤ number ∧ number ≤ (linesOf source).length := by
  -- Lines are numbered from one, and the number counts down to an index of the list.
  unfold shownLine?
  split
  · rw [← Option.isSome_iff_exists, isSome_getElem?]
    omega
  · simp only [reduceCtorEq, exists_false, false_iff]
    omega

/-- A line that is shown holds no line feed. -/
theorem shownLine?_row (shown : shownLine? source number = some text) : '\n' ∉ text.toList := by
  intro feed
  unfold shownLine? at shown
  split at shown
  · obtain ⟨letters, cut, rfl⟩ := List.mem_map.1 (List.mem_of_getElem? shown)
    -- A line feed would have ended the line.
    have inside := splitLines_none cut '\n' (by rwa [String.toList_ofList] at feed)
    revert inside
    decide
  · cases shown

/-- The indices of a window are those behind which its numbers stand, in order. -/
theorem windowIndices_numbers (count : Nat) (line reach : Int) :
    (windowIndices count line reach).map (fun index : Nat => (index : Int) + 1) =
      Int.range (max 1 (line - reach)) (min (count : Int) (line + reach) + 1) := by
  -- Both are runs of the same length, one counted from zero and the other from one.
  have many : (min (count : Int) (line + reach) + 1 - max 1 (line - reach)).toNat =
      (min (count : Int) (line + reach) - max 0 (line - 1 - reach)).toNat := by omega
  rw [windowIndices, Int.range, many, List.range'_eq_map_range, List.map_map]
  refine List.map_congr_left fun index _ => ?_
  simp only [Function.comp_apply]
  omega

/-- The lines that a window reads by their indices are all there. -/
theorem Snippet.around_reads (source : String) (line reach : Int) (column : Option Int) :
    (windowIndices (linesOf source).length line reach).map (fun index => (linesOf source)[index]?) =
      (Snippet.around source line reach column).lines.map fun row => some row.2 := by
  -- Every index of the window lies within the lines, so reading it gives the line that is shown.
  rw [Snippet.around, List.map_pmap, ← List.pmap_eq_map windowIndices_lt]
  exact List.pmap_congr_left _ fun index _ within _ => List.getElem?_eq_getElem within

/-- A window lists its numbers in order, and each with its own line. -/
theorem Snippet.around_lines (source : String) (line reach : Int) (column : Option Int) :
    (Snippet.around source line reach column).lines.map some =
      (Int.range (max 1 (line - reach))
        (min ((linesOf source).length : Int) (line + reach) + 1)).map
        fun number => (shownLine? source number).map (number, ·) := by
  -- Count the indices as numbers first, then compare row by row.
  rw [← windowIndices_numbers, List.map_map, Snippet.around, List.map_pmap,
    ← List.pmap_eq_map windowIndices_lt]
  refine List.pmap_congr_left _ fun index _ within _ => ?_
  simp [shownLine?_index, within]

/-- A window lists the numbers from its first to its last line. -/
theorem Snippet.around_numbers (source : String) (line reach : Int) (column : Option Int) :
    (Snippet.around source line reach column).lines.map Prod.fst =
      Int.range (max 1 (line - reach))
        (min ((linesOf source).length : Int) (line + reach) + 1) := by
  -- The rows carry the numbers of the window.
  rw [← windowIndices_numbers, Snippet.around, List.map_pmap, ← List.pmap_eq_map windowIndices_lt]

/-- What a window lists is the line under a number that is near enough. -/
theorem Snippet.mem_around :
    (number, text) ∈ (Snippet.around source line reach column).lines ↔
      line - reach ≤ number ∧ number ≤ line + reach ∧ shownLine? source number = some text := by
  -- The window is bounded by the reach and by the lines there are, and the second bound is what a
  -- shown line says by itself.
  have listed := Snippet.around_lines source line reach column
  rw [← List.mem_map_of_injective (Option.some_injective _), listed]
  simp only [List.mem_map, Int.mem_range_iff, Option.map_eq_some_iff, Prod.mk.injEq]
  constructor
  · rintro ⟨_, within, other, shown, rfl, rfl⟩
    exact ⟨by omega, by omega, shown⟩
  · rintro ⟨least, most, shown⟩
    obtain ⟨first, last⟩ := shownLine?_isSome.1 ⟨text, shown⟩
    exact ⟨number, by omega, text, shown, rfl, rfl⟩

/-- A window lists its own line unless it is empty or lies beside the text. -/
theorem Snippet.line_listed :
    (∃ text, (line, text) ∈ (Snippet.around source line reach column).lines) ↔
      0 ≤ reach ∧ 1 ≤ line ∧ line ≤ (linesOf source).length := by
  -- The line of the error is within its own reach unless the reach is negative.
  rw [← shownLine?_isSome]
  simp only [Snippet.mem_around]
  constructor
  · rintro ⟨text, least, most, shown⟩
    exact ⟨by omega, text, shown⟩
  · rintro ⟨wide, text, shown⟩
    exact ⟨text, by omega, by omega, shown⟩

/-- No line is listed twice in a window. -/
theorem Snippet.around_nodup (source : String) (line reach : Int) (column : Option Int) :
    ((Snippet.around source line reach column).lines.map Prod.fst).Nodup := by
  -- The numbers are a run, and a run repeats nothing.
  rw [Snippet.around_numbers, Int.range]
  exact List.nodup_range.map fun first second same => by simpa using same

/-- A row whose number no other row has is all that is left under its number. -/
theorem filter_number {rows : List (Int × String)} (apart : (rows.map Prod.fst).Nodup)
    (member : (number, text) ∈ rows) :
    rows.filter (fun row => row.1 = number) = [(number, text)] := by
  have once : (rows.map Prod.fst).filter (· = number) = [number] := by
    rw [List.filter_eq, List.count_eq_one_of_mem apart (List.mem_map_of_mem member)]
    rfl
  rw [List.filter_map] at once
  obtain ⟨row, only, _⟩ := List.map_eq_singleton_iff.1 once
  -- The row that is left is the one that is known to be there.
  have left : (number, text) ∈ rows.filter (fun row => row.1 = number) :=
    List.mem_filter.2 ⟨member, by simp⟩
  simp only [Function.comp_def] at only
  rw [only] at left ⊢
  rw [List.mem_singleton.1 left]

/-- Of the lines of a window only its own one has its number, if the window reaches it. -/
theorem Snippet.around_errorLine (source : String) (line reach : Int) (column : Option Int) :
    (Snippet.around source line reach column).lines.filter (fun row => row.1 = line) =
      (if 0 ≤ reach then (shownLine? source line).toList else []).map (line, ·) := by
  -- The numbers are distinct, so at most one row carries the number of the error. With a negative
  -- reach the window is empty.
  have apart := Snippet.around_nodup source line reach column
  split
  case isTrue wide =>
    cases shown : shownLine? source line with
    | some text => exact filter_number apart (Snippet.mem_around.2 ⟨by omega, by omega, shown⟩)
    | none =>
      refine List.filter_eq_nil_iff.2 fun row member same => ?_
      obtain ⟨_, _, found⟩ := Snippet.mem_around.1 member
      simp_all
  case isFalse narrow =>
    refine List.filter_eq_nil_iff.2 fun row member same => ?_
    obtain ⟨least, most, _⟩ := Snippet.mem_around.1 member
    omega

/-- A number is written without a line feed. -/
theorem writeInteger_row (number : Int) : '\n' ∉ (writeInteger number).toList := by
  intro feed
  -- What stands in a number is its digits, and perhaps a sign.
  have digit : '\n' ∈ Nat.toDigits 10 number.natAbs := by
    simp only [writeInteger, String.toList_ofList] at feed
    split at feed <;> simpa using feed
  have decimal := Nat.isDigit_of_mem_toDigits (by omega) (by omega) digit
  revert decimal
  decide

/-- A row of a snippet holds no line feed if its line holds none. -/
theorem Snippet.row_feedless (snippet : Snippet) (plain : '\n' ∉ text.toList) :
    '\n' ∉ (snippet.row (number, text)).toList := by
  -- A row is padding, a number and a line, and none of them holds a line feed.
  have written := writeInteger_row number
  simp only [Snippet.row, padLeft, String.toList_append, List.mem_append, String.toList_ofList,
    List.mem_replicate]
  split <;> simp [written, plain]

/-- A snippet of lines without line feeds is shown in these rows: its lines, and the caret below
them, between two empty ones. -/
theorem Snippet.rows_eq {snippet : Snippet} (plain : ∀ row ∈ snippet.lines, '\n' ∉ row.2.toList) :
    snippet.rows = (["   |"] ++ snippet.lines.map snippet.row ++
      snippet.column.toList.map caretRow ++ ["   |"]).map String.toList := by
  have joined : snippet.text = "\n".intercalate (["   |"] ++ snippet.lines.map snippet.row ++
      snippet.column.toList.map caretRow ++ ["   |"]) := by
    cases column : snippet.column <;> simp [Snippet.text, column]
  rw [Snippet.rows, joined, String.toList_intercalate]
  refine List.splitOn_intercalate '\n' (fun letters member => ?_) (by simp)
  -- Each row is an empty one, a line of the window or the caret.
  obtain ⟨row, among, rfl⟩ := List.mem_map.1 member
  simp only [List.mem_append, List.mem_singleton, List.mem_map] at among
  rcases among with ((rfl | ⟨line, listed, rfl⟩) | ⟨column, _, rfl⟩) | rfl
  · decide
  · exact snippet.row_feedless (plain line listed)
  · simp [caretRow]
  · decide

/-- The rows of a snippet that are marked are those of the line of the error. -/
theorem Snippet.marked_eq {snippet : Snippet}
    (plain : ∀ row ∈ snippet.lines, '\n' ∉ row.2.toList) :
    snippet.rows.filter isMarked = (snippet.lines.filter fun row => row.1 = snippet.errorLine).map
      fun row => (snippetGutter snippet.errorLine ++ row.2).toList := by
  have bar : (["   |"].map String.toList).filter isMarked = [] := by decide
  have caret : ((snippet.column.toList.map caretRow).map String.toList).filter isMarked = [] := by
    refine List.filter_eq_nil_iff.2 fun letters member => ?_
    obtain ⟨row, among, rfl⟩ := List.mem_map.1 member
    obtain ⟨column, _, rfl⟩ := List.mem_map.1 among
    simp [isMarked, caretRow]
  have marked (row : Int × String) :
      isMarked (snippet.row row).toList = decide (row.1 = snippet.errorLine) := by
    by_cases own : row.1 = snippet.errorLine <;> simp [isMarked, Snippet.row, own]
  have lines : ((snippet.lines.map snippet.row).map String.toList).filter isMarked =
      (snippet.lines.filter fun row => row.1 = snippet.errorLine).map
        fun row => (snippet.row row).toList := by
    simp only [List.map_map, List.filter_map, Function.comp_def, marked]
  rw [Snippet.rows_eq plain]
  simp only [List.map_append, List.filter_append, bar, caret, lines, List.nil_append,
    List.append_nil]
  -- In front of a line of the error stands the mark with its number.
  refine List.map_congr_left fun row own => ?_
  have same : row.1 = snippet.errorLine := by simpa using (List.mem_filter.1 own).2
  simp [Snippet.row, snippetGutter, same]

end

/-- The window around a line reads what is near enough by indices at each of which there is a line.
It lists these lines in order, each under its number, and among them the line that it is around just
if there is one and the window is not empty. Of the rows shown only that of this line is marked. -/
theorem snippet_window (source : String) (line reach : Int) (column : Option Int) :
    let count : Int := (linesOf source).length
    let snippet := Snippet.around source line reach column
    (windowIndices (linesOf source).length line reach).map (fun index => (linesOf source)[index]?) =
      snippet.lines.map (fun row => some row.2) ∧
    snippet.lines.map some =
      (Int.range (max 1 (line - reach)) (min count (line + reach) + 1)).map
        (fun number => (shownLine? source number).map (number, ·)) ∧
    ((∃ text, (line, text) ∈ snippet.lines) ↔ 0 ≤ reach ∧ 1 ≤ line ∧ line ≤ count) ∧
    snippet.rows.filter isMarked =
      (if 0 ≤ reach then (shownLine? source line).toList else []).map
        fun text => (snippetGutter line ++ text).toList := by
  -- The parts have their own lemmas. Only for the marked rows the comparison goes through the
  -- numbers, because a marked row is told by its gutter.
  intro count snippet
  have plain : ∀ row ∈ snippet.lines, '\n' ∉ row.2.toList := fun row member =>
    shownLine?_row (Snippet.mem_around.1 member).2.2
  refine ⟨Snippet.around_reads .., Snippet.around_lines .., Snippet.line_listed, ?_⟩
  calc snippet.rows.filter isMarked
      = (snippet.lines.filter fun row => row.1 = line).map
          fun row => (snippetGutter line ++ row.2).toList := Snippet.marked_eq plain
    _ = _ := by
      rw [Snippet.around_errorLine source line reach column, List.map_map]
      rfl

/-- An error behind the last line feed is shown without its own line. -/
example : Snippet.around "a\n" 2 2 none = ⟨[(1, "a")], 2, none⟩ := by decide

end Stencil
