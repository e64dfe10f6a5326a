import Stencil.Proofs.ShownLines

/-! Where the caret of a report stands, measured against the character of its column. -/

namespace Stencil

/-- What stands in front of the line in the row of a report that shows it. -/
def reportGutter (line : Int) : String :=
  padLeft 3 (writeInteger line) ++ " | "

/-- What stands in front of the line of the error in its row of a snippet. -/
def snippetGutter (line : Int) : String :=
  ">" ++ padLeft 2 (writeInteger line) ++ " | "

/-- The index in a row at which a character of the line behind a gutter is printed. -/
def printedIndex (gutter : String) (column : Nat) : Nat :=
  gutter.length + column

/-- The index of the caret in the row that marks a column. -/
def caretIndex (column : Int) : Nat :=
  (caretRow column).toList.idxOf '^'

/-- The rows of a report in front of its source line. -/
def SyntaxFault.heading (fault : SyntaxFault) : List String :=
  ["Syntax Error: " ++ fault.message,
    "  --> " ++ nameOrUnnamed (firstName fault.file fault.name) ++ fault.place, "   |"]

/-- The rows of a report behind its caret. -/
def SyntaxFault.hint (fault : SyntaxFault) : List String :=
  match nonempty? fault.suggestion with
  | some suggestion => ["", "Suggestion: " ++ suggestion]
  | none => []

/-- The number of digits a line number is written with, and its sign. -/
def numberWidth (line : Int) : Nat :=
  (writeInteger line).length

/-- A character of a line is found in its row where it is printed. -/
theorem printedIndex_found (gutter text : String) (column : Nat) :
    (gutter ++ text).toList[printedIndex gutter column]? = text.toList[column]? := by
  -- The gutter stands in front, and the printed index counts it.
  have within : gutter.toList.length ≤ printedIndex gutter column := by
    rw [printedIndex, String.length_toList]
    omega
  rw [String.toList_append, List.getElem?_append_right within, printedIndex, String.length_toList]
  congr 1
  omega

/-- A field is at least as wide as it is asked to be. -/
theorem padLeft_length (width : Nat) (text : String) :
    (padLeft width text).length = max width text.length := by
  -- Padding fills up to the width and never cuts.
  rw [padLeft, String.length_append, String.length_ofList, List.length_replicate]
  omega

/-- The gutter of a report grows with numbers of more than three digits. -/
theorem reportGutter_length (line : Int) :
    (reportGutter line).length = max 3 (numberWidth line) + 3 := by
  -- A number of at least three places and three characters behind it.
  rw [reportGutter, String.length_append, padLeft_length, numberWidth]
  rfl

/-- The gutter of a snippet grows with numbers of more than two digits. -/
theorem snippetGutter_length (line : Int) :
    (snippetGutter line).length = max 2 (numberWidth line) + 4 := by
  -- The mark, a number of at least two places and three characters behind it.
  have mark : (">" : String).length = 1 := rfl
  have bar : (" | " : String).length = 3 := rfl
  rw [snippetGutter, String.length_append, String.length_append, padLeft_length, numberWidth,
    mark, bar]
  omega

/-- The caret stands behind five characters, whatever the number of its line. -/
theorem caretIndex_eq (column : Nat) : caretIndex column = 5 + column := by
  -- The caret is the first one in its row, behind a bar of five characters and one blank for each
  -- column.
  have caret : "^".toList.idxOf '^' = 0 := rfl
  have bar : "   | ".toList.length = 5 := rfl
  rw [caretIndex, caretRow, String.toList_append, String.toList_append, Int.toNat_natCast,
    List.idxOf_append, if_neg (by simp), List.length_append, caret, bar,
    String.toList_ofList, List.length_replicate]
  omega

/-- A report that shows a line and marks a column in it is these rows. -/
theorem SyntaxFault.report_rows {fault : SyntaxFault} {line : Int} {text : String} {column : Int}
    (shown : fault.sourceLine? = some (line, text)) (marked : fault.column = some column) :
    fault.report = "\n".intercalate
      (fault.heading ++ [reportGutter line ++ text, caretRow column] ++ fault.hint) := by
  have excerpt : fault.excerpt =
      "\n   |\n" ++ reportGutter line ++ text ++ "\n" ++ caretRow column := by
    simp only [SyntaxFault.excerpt, shown, marked, reportGutter, String.append_assoc]
  -- The line feeds between the rows are written within the texts that are put together.
  have arrow : "\n  --> " = "\n" ++ "  --> " := rfl
  have bar : "\n   |\n" = "\n" ++ ("   |" ++ "\n") := rfl
  have hint : "\n\nSuggestion: " = "\n" ++ ("" ++ ("\n" ++ "Suggestion: ")) := rfl
  unfold SyntaxFault.report SyntaxFault.hint SyntaxFault.heading
  rw [excerpt]
  cases nonempty? fault.suggestion <;>
    simp only [arrow, bar, hint, List.cons_append, List.nil_append, List.append_nil,
      String.intercalate_cons_cons, String.intercalate_singleton, String.append_assoc,
      String.append_empty]

/-- A snippet that ends with the line of its error and marks a column is these rows. -/
theorem Snippet.text_rows {snippet : Snippet} {others : List (Int × String)} {text : String}
    {column : Int} (last : snippet.lines = others ++ [(snippet.errorLine, text)])
    (marked : snippet.column = some column) :
    snippet.text = "\n".intercalate (["   |"] ++ others.map snippet.row ++
      [snippetGutter snippet.errorLine ++ text, caretRow column, "   |"]) := by
  -- The line of the error is the last one of the lines, so the row of the caret comes right behind
  -- it.
  have row : snippet.row (snippet.errorLine, text) = snippetGutter snippet.errorLine ++ text := by
    simp [Snippet.row, snippetGutter]
  simp only [Snippet.text, last, marked, List.map_append, List.map_cons, List.map_nil, row,
    List.append_assoc, List.cons_append, List.nil_append]

/-- The line that a report shows holds no line feed, so it is one row. -/
theorem SyntaxFault.sourceLine?_row {fault : SyntaxFault} {line : Int} {text : String}
    (shown : fault.sourceLine? = some (line, text)) : '\n' ∉ text.toList := by
  intro feed
  cases kept : fault.source with
  | none => simp [SyntaxFault.sourceLine?, kept] at shown
  | some source =>
    obtain ⟨index, _, found⟩ := mem_numberLines.1 (fault.sourceLine?_listed kept shown)
    obtain ⟨letters, cut, written⟩ := List.mem_map.1 (List.mem_of_getElem? found)
    obtain rfl : String.ofList letters = text := written
    -- A line feed would have ended the line.
    have inside := splitLines_none cut '\n' (by rwa [String.toList_ofList] at feed)
    revert inside
    decide

/-- The caret of a report stands one character to the left of the column that it marks, and further
still when the number of the line has more than three digits; the caret of a snippet likewise, from
two digits on. -/
theorem caret_left_of_character (line : Int) (text : String) (column : Nat) :
    (∀ fault : SyntaxFault, fault.sourceLine? = some (line, text) →
      fault.column = some (column : Int) →
      fault.report = "\n".intercalate
        (fault.heading ++ [reportGutter line ++ text, caretRow column] ++ fault.hint) ∧
      '\n' ∉ text.toList ∧
      (reportGutter line ++ text).toList[printedIndex (reportGutter line) column]? =
        text.toList[column]? ∧
      caretIndex column + (max 3 (numberWidth line) - 2) =
        printedIndex (reportGutter line) column ∧
      caretIndex column < printedIndex (reportGutter line) column) ∧
    (∀ (snippet : Snippet) (others : List (Int × String)), snippet.errorLine = line →
      snippet.lines = others ++ [(line, text)] → snippet.column = some (column : Int) →
      snippet.text = "\n".intercalate (["   |"] ++ others.map snippet.row ++
        [snippetGutter line ++ text, caretRow column, "   |"]) ∧
      (snippetGutter line ++ text).toList[printedIndex (snippetGutter line) column]? =
        text.toList[column]? ∧
      caretIndex column + (max 2 (numberWidth line) - 1) =
        printedIndex (snippetGutter line) column ∧
      caretIndex column < printedIndex (snippetGutter line) column) := by
  -- Both formats print the caret behind five characters and the source behind six or more. The
  -- character under the caret follows from the two lengths.
  have caret := caretIndex_eq column
  refine ⟨?_, ?_⟩
  · intro fault shown marked
    have printed : printedIndex (reportGutter line) column =
        max 3 (numberWidth line) + 3 + column := by rw [printedIndex, reportGutter_length]
    exact ⟨fault.report_rows shown marked, fault.sourceLine?_row shown,
      printedIndex_found _ text column, by omega, by omega⟩
  · rintro snippet others rfl last marked
    have printed : printedIndex (snippetGutter snippet.errorLine) column =
        max 2 (numberWidth snippet.errorLine) + 4 + column := by
      rw [printedIndex, snippetGutter_length]
    exact ⟨snippet.text_rows last marked, printedIndex_found _ text column, by omega, by omega⟩

/-- A character that cannot stand in a tag, the seventh of its line. -/
def strayFault : SyntaxFault where
  -- What the lexer reports for the question mark in its source.
  stage := .lexer
  code := .unexpectedToken
  message := "Unexpected character '?'"
  line := some 1
  column := some 6
  name := none
  file := none
  source := some "ab \x7b\x7b ? \x7d\x7d"
  suggestion := none

/-- The same line as a snippet. -/
def straySnippet : Snippet :=
  Snippet.around "ab \x7b\x7b ? \x7d\x7d" 1 2 (some 6)

/-- The caret of either report of the line stands one character to the left. -/
theorem caret_left_of_character_stray :
    (strayFault.sourceLine? = some (1, "ab \x7b\x7b ? \x7d\x7d") ∧ strayFault.column = some 6 ∧
      strayFault.report = "\n".intercalate (strayFault.heading ++
        [reportGutter 1 ++ "ab \x7b\x7b ? \x7d\x7d", caretRow 6] ++ strayFault.hint)) ∧
    (straySnippet.lines = [] ++ [(1, "ab \x7b\x7b ? \x7d\x7d")] ∧ straySnippet.column = some 6 ∧
      straySnippet.text = "\n".intercalate
        (["   |"] ++ [] ++ [snippetGutter 1 ++ "ab \x7b\x7b ? \x7d\x7d", caretRow 6, "   |"])) ∧
    caretIndex 6 + 1 = printedIndex (reportGutter 1) 6 ∧
    caretIndex 6 + 1 = printedIndex (snippetGutter 1) 6 := by
  -- The rows of both formats are evaluated. The places come from the general statement.
  have lines : straySnippet.lines = [] ++ [(1, "ab \x7b\x7b ? \x7d\x7d")] := by decide +kernel
  have shown : strayFault.sourceLine? = some (1, "ab \x7b\x7b ? \x7d\x7d") := by decide +kernel
  have law := caret_left_of_character 1 "ab \x7b\x7b ? \x7d\x7d" 6
  obtain ⟨rows, _, _, under, _⟩ := law.1 strayFault shown rfl
  obtain ⟨around, _, below, _⟩ := law.2 straySnippet [] rfl lines rfl
  exact ⟨⟨shown, rfl, rows⟩, ⟨lines, rfl, around⟩, under, below⟩

/-- The caret stands under the blank in front of the character that cannot stand there. -/
theorem caret_under_the_blank :
    readTemplate none none "ab \x7b\x7b ? \x7d\x7d" =
      .error (.diagnostic (.malformed strayFault)) ∧
    strayFault.report = "Syntax Error: Unexpected character '?'\n  --> <template>:1:6\n   |\n" ++
      "  1 | ab \x7b\x7b ? \x7d\x7d\n   |       ^" ∧
    caretIndex 6 = 11 ∧ printedIndex (reportGutter 1) 6 = 12 := by
  have cut : tokenize "ab \x7b\x7b ? \x7d\x7d" = .error ⟨.strayCharacter '?', ⟨1, 6⟩⟩ := by cbv
  refine ⟨?_, ?_, ?_, ?_⟩
  · exact readTemplate_uncut cut
  · decide +kernel
  · decide +kernel
  · decide +kernel

end Stencil
