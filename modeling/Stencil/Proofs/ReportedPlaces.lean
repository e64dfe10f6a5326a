import Mathlib
import Stencil.Environment
import Stencil.Proofs.TokenPlaces
import Stencil.Proofs.TokenShape

/-! Where a malformed source is reported: under which name, and at which place of it. -/

namespace Stencil

/-- A place of a text with a name, as reports write it. -/
def placeIn (title : String) (place : Position) : String :=
  title ++ ":" ++ writeInteger place.line ++ ":" ++ writeInteger place.column

/-- What stands in a report behind the place of the fault. -/
def SyntaxFault.behindPlace (fault : SyntaxFault) : String :=
  fault.excerpt ++ match nonempty? fault.suggestion with
    | some suggestion => "\n\nSuggestion: " ++ suggestion
    | none => ""

/-- The row of a report that tells the place of the fault tells this place, under this name. -/
def SyntaxFault.ReportsAt (fault : SyntaxFault) (title : String) (place : Position) : Prop :=
  fault.report = "Syntax Error: " ++ fault.message ++ "\n  --> " ++ placeIn title place ++
    fault.behindPlace

/-- The place of a source at which a stage stops: in front of a rest of it that no piece can stand
before, or at the first token that no template goes on with. -/
inductive Stops (source : String) : Stage → Position → Prop
  -- The lexer stops where no piece can stand.
  | uncut {pieces : List Piece} {zone : Zone} {rest : List Char} {problem : LexProblem}
      {place : Position} : Follow .text pieces zone → spellingOf pieces ++ rest = source.toList →
      Blocks zone rest problem → TruePlace source.toList (spellingOf pieces).length place →
      Stops source .lexer place
  -- The parser stops at the first token that cannot be continued.
  | refused {pieces : List Piece} {before after : List Token} {token : Token} :
      Follow .text pieces .text → spellingOf pieces = source.toList →
      Placed source.toList 0 pieces (before ++ token :: after) →
      (∀ others tree, Node.ofTokens (before ++ token :: others) ≠ .ok tree) →
      (∃ others tree, Node.ofTokens (before ++ others) = .ok tree) →
      Stops source (.parser token) token.position

section

variable {source : String} {name file : Option String}

/-- What stands behind the place of the fault starts a row of its own, if there is anything. -/
theorem SyntaxFault.behindPlace_rows (fault : SyntaxFault) :
    fault.behindPlace = "" ∨ ∃ rest, fault.behindPlace = "\n" ++ rest := by
  have bar : "\n   |\n" = "\n" ++ "   |\n" := rfl
  have hint : "\n\nSuggestion: " = "\n" ++ "\nSuggestion: " := rfl
  unfold SyntaxFault.behindPlace SyntaxFault.excerpt
  split
  · -- Without a line of the source there is a suggestion or nothing.
    split
    · exact .inr ⟨_, by rw [String.empty_append, hint, String.append_assoc]⟩
    · exact .inl rfl
  · exact .inr ⟨_, by rw [bar]; simp only [String.append_assoc]; rfl⟩

/-- A fault is reported at its line and column, under the file or the name that it is kept with. -/
theorem SyntaxFault.reportsAt_own {fault : SyntaxFault} {title : String} {place : Position}
    (titled : nameOrUnnamed (firstName fault.file fault.name) = title)
    (line : fault.line = some place.line) (column : fault.column = some place.column)
    (counted : 1 ≤ place.line) : fault.ReportsAt title place := by
  -- The place is counted from one, so line and column are both printed. The rest is the order in
  -- which the report is put together.
  have known : place.line ≠ 0 := by omega
  have suffix : lineSuffix fault.line = ":" ++ writeInteger place.line := by
    rw [line, lineSuffix, if_neg known]
  have full : (":" ++ writeInteger place.line).isEmpty = false := by
    rw [Bool.eq_false_iff, ne_eq, String.isEmpty_iff]
    intro empty
    simpa using congrArg String.toList empty
  have told : fault.place = ":" ++ writeInteger place.line ++ ":" ++ writeInteger place.column := by
    rw [SyntaxFault.place, suffix, column]
    simp only [full]
    rw [if_neg Bool.false_ne_true]
  unfold SyntaxFault.ReportsAt SyntaxFault.report SyntaxFault.behindPlace placeIn
  rw [titled, told]
  cases nonempty? fault.suggestion <;> simp only [String.append_assoc]

/-- A report tells a place under one name only. -/
theorem SyntaxFault.ReportsAt.title_iff {fault : SyntaxFault} {title other : String}
    {place : Position} (reported : fault.ReportsAt title place) :
    fault.ReportsAt other place ↔ title = other := by
  -- The title is followed by the same text in both, so two reports agree just if their titles do.
  constructor
  · intro again
    rw [SyntaxFault.ReportsAt, reported] at again
    simpa [placeIn, String.append_left_inj, String.append_right_inj, String.append_assoc]
      using again
  · rintro rfl
    exact reported

/-- A file is named before the template, unless it has no name or the same one. -/
theorem nameOrUnnamed_firstName :
    nameOrUnnamed name = nameOrUnnamed (firstName file name) ↔
      nonempty? file = none ∨ nonempty? file = some (nameOrUnnamed name) := by
  unfold firstName
  cases found : nonempty? file with
  | none => simp
  | some title =>
    -- A file that is named has letters in its name.
    have full : nonempty? (some title) = some title := by
      obtain ⟨rfl, full⟩ := Option.filter_eq_some_iff.1 found
      simp [nonempty?, full]
    simp [nameOrUnnamed, full, eq_comm]

/-- The tokens of a source are those of its pieces, and stand where these do. -/
theorem tokenize_placed {tokens : List Token} (cut : tokenize source = .ok tokens) :
    ∃ pieces, Follow .text pieces .text ∧ spellingOf pieces = source.toList ∧
      Placed source.toList 0 pieces tokens := by
  -- The pieces cover the source, and each token stands where its piece starts.
  obtain ⟨last, rest, follow, joined, finished, _⟩ := piecesOf_follow .text source.toList
  obtain ⟨ended, rfl⟩ := tokenize_eq_ok.1 cut
  obtain ⟨rfl, rfl⟩ := finished ended
  rw [List.append_nil] at joined
  have placed := placeTokens_placed [] (piecesOf .text source.toList).1
  simp only [List.nil_append, joined] at placed
  exact ⟨_, follow, joined, by rw [closedTokens, joined]; exact placed⟩

/-- A source that cannot be cut stops at the place of its fault. -/
theorem tokenize_stops {fault : LexFault} (cut : tokenize source = .error fault) :
    Stops source .lexer fault.position := by
  -- The cutting ends where the pieces before it end, and what is left there starts no piece.
  obtain ⟨last, rest, follow, joined, _, blocked⟩ := piecesOf_follow .text source.toList
  obtain ⟨ended, reached⟩ := tokenize_eq_error.1 cut
  have place := truePlace_after (spellingOf (piecesOf .text source.toList).1) rest
  rw [joined, ← reached] at place
  exact .uncut follow joined (blocked fault.problem ended) place

/-- Tokens that are refused stop at the one that is at fault. -/
theorem ofTokens_stops {tokens : List Token} {fault : ParseFault}
    (cut : tokenize source = .ok tokens) (refused : Node.ofTokens tokens = .error (.fault fault)) :
    Stops source (.parser fault.token) fault.token.position := by
  -- The tokens up to the offending one are refused with anything behind them, and those before it
  -- can be continued.
  obtain ⟨before, after, rfl, ⟨more, tree, read⟩, again⟩ := ofTokens_refused refused
  obtain ⟨pieces, follow, joined, placed⟩ := tokenize_placed cut
  refine .refused follow joined placed (fun others tree accepted => ?_) ⟨more, tree, read⟩
  rw [again others] at accepted
  cases accepted

/-- A name that no other one stands beside is told as it is. -/
theorem nameOrUnnamed_single (name : Option String) :
    nameOrUnnamed (firstName name none) = nameOrUnnamed name := by
  -- Without a file the first name is the name itself, if it is not empty.
  have again : nonempty? (nonempty? name) = nonempty? name := by
    simp [nonempty?, Option.filter_filter]
  have single : firstName name none = nonempty? name := by
    rw [firstName]
    cases nonempty? name <;> rfl
  rw [single, nameOrUnnamed, again, nameOrUnnamed]

end

/-- A source that is found malformed is reported where reading it stops, by line and column. A
source that cannot be cut is reported under the name of the template, and one with a token that
cannot stand where it does under the file before that; so both are named alike only where there is
no file, or where it is called what the template is. -/
theorem malformed_reported (name file : Option String) (source : String) (report : Diagnostic)
    (refused : readTemplate name file source = .error (.diagnostic report)) :
    ∃ fault place, report = .malformed fault ∧ Stops source fault.stage place ∧
      fault.ReportsAt
        (if fault.stage = .lexer then nameOrUnnamed name else nameOrUnnamed (firstName file name))
        place ∧
      (fault.behindPlace = "" ∨ ∃ rest, fault.behindPlace = "\n" ++ rest) ∧
      (fault.ReportsAt (nameOrUnnamed (firstName file name)) place ↔
        (fault.stage = .lexer →
          nonempty? file = none ∨ nonempty? file = some (nameOrUnnamed name))) ∧
      ∀ (maker : Environment) (title : String), name = some title →
        maker.load title = .ok ⟨source, file⟩ →
          maker.template title = .error (.diagnostic report) := by
  have failed (maker : Environment) (title : String) (named : name = some title)
      (found : maker.load title = .ok ⟨source, file⟩) :
      maker.template title = .error (.diagnostic report) := by
    subst named
    rw [Environment.template, found, ok_bind, Environment.ofSource, refused, error_bind]
  rcases readTemplate_eq_error.1 refused with ⟨fault, cut, ⟨⟩⟩ | ⟨tokens, fault, cut, built, ⟨⟩⟩ |
    ⟨_, _, _, _, ⟨⟩⟩
  · -- The file is not known where the text is cut.
    have counted := tokenize_fault_line cut
    refine ⟨_, _, rfl, tokenize_stops cut, SyntaxFault.reportsAt_own rfl rfl rfl counted,
      SyntaxFault.behindPlace_rows _, ?_, failed⟩
    rw [(SyntaxFault.reportsAt_own rfl rfl rfl counted).title_iff]
    exact nameOrUnnamed_firstName.trans ⟨fun alike _ => alike, fun alike => alike rfl⟩
  · obtain ⟨before, after, split, _⟩ := ofTokens_refused built
    have read : fault.token ∈ tokens := by simp [split]
    have counted := tokenize_line cut read
    refine ⟨_, _, rfl, ofTokens_stops cut built,
      SyntaxFault.reportsAt_own (nameOrUnnamed_single _) rfl rfl counted,
      SyntaxFault.behindPlace_rows _, ⟨fun _ lexed => (nomatch lexed), fun _ => ?_⟩, failed⟩
    exact SyntaxFault.reportsAt_own (nameOrUnnamed_single _) rfl rfl counted

/-- A loader that knows one template, from a file that is called otherwise. -/
def navLoader (source : String) : Environment :=
  { Environment.default with
    loader := some (.asked fun title =>
      .ok (if title = "Nav/nav.html" then some ⟨source, some "site/nav.html"⟩ else none)) }

/-- An output tag without an expression, at fault where it ends. -/
def emptyFault : SyntaxFault where
  stage := .parser ⟨.outputClose, "\x7d\x7d", ⟨1, 3⟩⟩
  code := .invalidExpression
  message := "Empty expression in output tag"
  line := some 1
  column := some 3
  name := none
  file := some "site/nav.html"
  source := some "\x7b\x7b \x7d\x7d"
  suggestion := none

/-- The empty output is reported at the end of its tag, under the file. -/
theorem malformed_reported_empty :
    readTemplate (some "Nav/nav.html") (some "site/nav.html") "\x7b\x7b \x7d\x7d" =
        .error (.diagnostic (.malformed emptyFault)) ∧
      (navLoader "\x7b\x7b \x7d\x7d").template "Nav/nav.html" =
        .error (.diagnostic (.malformed emptyFault)) ∧
      ∃ place, Stops "\x7b\x7b \x7d\x7d" emptyFault.stage place ∧
        emptyFault.ReportsAt "site/nav.html" place := by
  -- The tokens are evaluated, and the reading refuses the closer. The place comes from the general
  -- statement.
  have cut : tokenize "\x7b\x7b \x7d\x7d" = .ok [⟨.outputOpen, "\x7b\x7b", ⟨1, 0⟩⟩,
      ⟨.outputClose, "\x7d\x7d", ⟨1, 3⟩⟩, ⟨.endOfInput, "", ⟨1, 5⟩⟩] := by cbv
  have refused : readTemplate (some "Nav/nav.html") (some "site/nav.html") "\x7b\x7b \x7d\x7d" =
      .error (.diagnostic (.malformed emptyFault)) := by
    rw [readTemplate, readTokens, cut]
    rfl
  obtain ⟨fault, place, same, stops, reported, _, _, loaded⟩ := malformed_reported _ _ _ _ refused
  cases same
  exact ⟨refused, loaded (navLoader _) _ rfl rfl, place, stops, reported⟩

/-- A character that no tag can hold, in the same file. -/
def unnamedFault : SyntaxFault where
  stage := .lexer
  code := .unexpectedToken
  message := "Unexpected character '?'"
  line := some 1
  column := some 3
  name := some "Nav/nav.html"
  file := none
  source := some "\x7b\x7b ?"
  suggestion := none

/-- A character that no tag can hold is reported under the template, and not under the file. -/
theorem uncut_file_unnamed :
    readTemplate (some "Nav/nav.html") (some "site/nav.html") "\x7b\x7b ?" =
        .error (.diagnostic (.malformed unnamedFault)) ∧
      unnamedFault.report = "Syntax Error: Unexpected character '?'\n  --> Nav/nav.html:1:3\n" ++
        "   |\n  1 | \x7b\x7b ?\n   |    ^" ∧
      ∀ behind, unnamedFault.report ≠
        "Syntax Error: Unexpected character '?'\n  --> site/nav.html:1:3" ++ behind := by
  have cut : tokenize "\x7b\x7b ?" = .error ⟨.strayCharacter '?', ⟨1, 3⟩⟩ := by cbv
  refine ⟨readTemplate_eq_error.2 (.inl ⟨_, cut, ?_⟩), by decide +kernel, fun behind same => ?_⟩
  · decide +kernel
  · -- The report does not start with the place in the file.
    have start : "Syntax Error: Unexpected character '?'\n  --> site/nav.html:1:3".toList <+:
        unnamedFault.report.toList := ⟨behind.toList, by rw [same, String.toList_append]⟩
    revert start
    decide +kernel

end Stencil
