import Mathlib
import Stencil.Proofs.CountedLines
import Stencil.Proofs.ErrorPlace
import Stencil.Proofs.TokenShape

/-! The lines that a report shows of a source, compared with the lines that the lexer counts. -/

namespace Stencil

/-- A row of a source, and when it shows the line that is counted under its number: behind plain
lines exactly if that line is plain too, and all rows as far as it exactly if all lines are. -/
structure RowOf (source : String) (row : Int × String) : Prop where
  listed : row ∈ numberLines (linesOf source)
  own : PlainTo source (row.1 - 1).toNat →
    (ShowsCounted source row ↔ PlainTo source row.1.toNat)
  all : (∀ other ∈ numberLines (linesOf source), other.1 ≤ row.1 → ShowsCounted source other) ↔
    PlainTo source row.1.toNat

/-- What is listed of a source is a row of it. -/
theorem RowOf.of_listed {source : String} {row : Int × String}
    (listed : row ∈ numberLines (linesOf source)) : RowOf source row where
  -- The three facts about a row that is listed.
  listed := listed
  own before := showsCounted_iff listed before
  all := allShowCounted_iff listed

/-- The template that a failure of a render names, and the snippet that it shows of it. -/
def Diagnostic.shown? : Diagnostic → Option (String × Snippet)
  | .runtime fault => fault.snippet.map fun snippet => (nameOrUnnamed fault.template, snippet)
  | .undefined fault => fault.snippet.map fun snippet => (fault.template, snippet)
  | _ => none

/-- A source that cannot be cut into tokens is malformed where the cutting stops. -/
theorem readTemplate_uncut {name file : Option String} {source : String} {fault : LexFault}
    (cut : tokenize source = .error fault) :
    readTemplate name file source = .error (.diagnostic (fault.diagnostic name source)) :=
  -- The lexer is the first of the two stages.
  readTemplate_eq_error.2 (.inl ⟨fault, cut, rfl⟩)

/-- A malformed source is kept with its fault. -/
theorem readTemplate_kept {name file : Option String} {source : String} {fault : SyntaxFault}
    (refused : readTemplate name file source = .error (.diagnostic (.malformed fault))) :
    fault.source = some source := by
  -- A number that cannot be read is no malformed source.
  rcases readTemplate_eq_error.1 refused with ⟨other, _, same⟩ | ⟨_, other, _, _, same⟩ |
    ⟨_, _, _, _, same⟩
  · cases same
    rfl
  · cases same
    rfl
  · cases same

/-- The line that a fault shows is a row of its source. -/
theorem SyntaxFault.sourceLine?_listed {fault : SyntaxFault} {source : String}
    {row : Int × String} (kept : fault.source = some source)
    (shown : fault.sourceLine? = some row) : row ∈ numberLines (linesOf source) := by
  -- The line is looked up among the numbered ones.
  unfold SyntaxFault.sourceLine? at shown
  split at shown
  · rename_i other line there known
    obtain rfl : other = source := Option.some.inj (there.symm.trans kept)
    exact List.mem_of_find?_eq_some shown
  · cases shown

/-- The snippet around a line lists rows of its source. -/
theorem Snippet.around_listed {source : String} {line reach : Int} {column : Option Int}
    {row : Int × String} (member : row ∈ (Snippet.around source line reach column).lines) :
    row ∈ numberLines (linesOf source) := by
  -- The indices of the window are indices of the lines.
  obtain ⟨index, within, rfl⟩ := List.mem_pmap.1 member
  exact mem_numberLines.2 ⟨index, rfl, by simp⟩

namespace Activation

variable {environment : Environment} {active last : Activation} {node : Node} {callers : Callers}
  {own : Failure} {report : Diagnostic} {title : String} {snippet : Snippet}

/-- A snippet that is shown on a line of a script, under its name, is cut from its own source. -/
structure ShowsOwn (active : Activation) (line : Int) (title : String) (snippet : Snippet) :
    Prop where
  title : title = nameOrUnnamed active.script.site.name
  cut : (nonempty? active.script.source).map (fun source =>
    Snippet.around source line Frame.snippetReach none) = some snippet

/-- A step that fails with a report that shows a snippet shows its own script, unless the host
program has raised the report. -/
theorem IsPlaced.step_shown {allowed : Fault → Prop} (placed : active.IsPlaced)
    (only : active.RaisesOnly environment allowed) (reached : active.Reaches environment node)
    (failed : active.step environment node = .error own) (ended : own.report? = some report)
    (shown : report.shown? = some (title, snippet)) :
    active.ShowsOwn node.line title snippet ∨ ∃ raised, allowed raised ∧
      raised.report? = some report := by
  rcases step_eq_error.1 failed with effect | ⟨component, inner, _, _, rfl⟩
  · rcases effect_arises only reached.within effect with arises | ⟨raised, permitted, rfl⟩
    · -- Of the diagnostics that arise in a frame only an undefined variable shows a snippet.
      rw [arises.report ended] at arises
      cases report with
      | undefined fault =>
        obtain ⟨named, _, cut⟩ := arises
        obtain ⟨found, there, same⟩ := Option.map_eq_some_iff.1 shown
        cases same
        refine .inl ⟨named.trans (congrArg nameOrUnnamed placed.named), ?_⟩
        rw [← placed.snippet (placed.line reached), ← there, cut]
        rfl
      | runtime fault => exact arises.elim
      | _ => cases shown
    · exact .inr ⟨raised, permitted, raised.failure_report ▸ ended⟩
  · -- A component that is too deep is reported without one.
    cases ended
    cases shown

/-- A snippet that leaves a render is cut from the source of a script that was entered, under its
name, unless the host program has raised the report that shows it. -/
theorem IsPlaced.shown {allowed : Fault → Prop} (placed : active.IsPlaced)
    (bare : active.frame.stack = []) (only : active.RaisesOnly environment allowed)
    (failed : active.text environment = .error (.diagnostic report))
    (shown : report.shown? = some (title, snippet)) :
    (∃ callers last line, active.Enters environment callers last ∧
      last.ShowsOwn line title snippet) ∨
    ∃ raised, allowed raised ∧ raised.report? = some report := by
  obtain ⟨callers, last, node, own, entered, reached, stopped, left⟩ := text_eq_error.1 failed
  rcases placed.leave_report bare entered reached left.symm with
    ended | ⟨outer, inmost, place, accident, text, around, _, rfl⟩
  · exact ((entered.placed placed).1.step_shown (entered.raisesOnly only) reached stopped ended
      shown).imp_left fun own => ⟨callers, last, _, entered, own⟩
  · -- A mishap is located in the script that could tell it.
    obtain ⟨found, cut, same⟩ := Option.map_eq_some_iff.1 shown
    cases same
    exact .inl ⟨outer, inmost, place.line, around, rfl, cut⟩

end Activation

/-- A report shows rows of the source that it is about, and each shows the line that is counted
under its number as long as line feeds are all that ends lines up to there. -/
theorem shown_lines_counted (maker environment : Environment) (source : String)
    (name file : Option String) :
    (∀ fault row, readTemplate name file source = .error (.diagnostic (.malformed fault)) →
      fault.sourceLine? = some row → RowOf source row) ∧
    ∀ template arguments keywords context, maker.ofSource source name file = .ok template →
      checkKeywords keywords = .ok () →
      rootContext environment.globals arguments keywords = .ok context →
      ∃ tree, readTemplate name file source = .ok tree ∧
      let root := environment.root (maker.scriptOf tree name file (some source)) context
      ∀ report title snippet,
        template.render (some environment) arguments keywords = .error (.diagnostic report) →
        report.shown? = some (title, snippet) →
        (∃ callers last text, root.Enters environment callers last ∧
          last.script.source = some text ∧ title = nameOrUnnamed last.script.site.name ∧
          ∀ row ∈ snippet.lines, RowOf text row) ∨
        -- What the host program reports may show anything.
        ∃ raised, environment.Raises context raised ∧ raised.report? = some report := by
  constructor
  · intro fault row refused shown
    exact .of_listed (fault.sourceLine?_listed (readTemplate_kept refused) shown)
  · intro template arguments keywords context made named rooted
    obtain ⟨tree, read, compiled⟩ := ofSource_eq_ok.1 made
    refine ⟨tree, read, ?_⟩
    intro root report title snippet failed shown
    rw [render_eq_text compiled named rooted] at failed
    have placed : root.IsPlaced := ⟨rfl, rfl, readTemplate_lines read⟩
    refine (placed.shown rfl (root_raisesOnly read context) failed shown).imp_left ?_
    -- Every row of the snippet is listed in the source that it was cut from.
    rintro ⟨callers, last, line, entered, titled, cut⟩
    obtain ⟨text, filled, rfl⟩ := Option.map_eq_some_iff.1 cut
    have kept : last.script.source = some text := (Option.filter_eq_some_iff.1 filled).1
    exact ⟨callers, last, text, entered, kept, titled,
      fun row member => .of_listed (Snippet.around_listed member)⟩

/-- A source whose second line cannot be cut, behind a line that ends in two characters. -/
def returnSource : String :=
  "a\r\n\x7b\x7b ? \x7d\x7d"

/-- A page that reads a variable on its second line. -/
def absentPage : String :=
  "a\n\x7b\x7b absent \x7d\x7d"

/-- What is reported of the page: both of its lines. -/
def absentReport : Diagnostic :=
  .undefined
    { name := "absent"
      template := "<template>"
      line := some 2
      closest := none
      snippet := some ⟨[(1, "a"), (2, "\x7b\x7b absent \x7d\x7d")], 2, none⟩ }

/-- The second line of either source is shown as it is counted. -/
theorem shown_lines_counted_absent :
    (∃ fault, readTemplate none none returnSource = .error (.diagnostic (.malformed fault)) ∧
      fault.sourceLine? = some (2, "\x7b\x7b ? \x7d\x7d") ∧
      ShowsCounted returnSource (2, "\x7b\x7b ? \x7d\x7d")) ∧
    ∃ template tree, Environment.default.ofSource absentPage none none = .ok template ∧
      template.render (some Environment.default) [] [] = .error (.diagnostic absentReport) ∧
      ∃ callers last text, (Environment.default.root (Environment.default.scriptOf tree none none
          (some absentPage)) []).Enters Environment.default callers last ∧
        last.script.source = some text ∧
        RowOf text (2, "\x7b\x7b absent \x7d\x7d") := by
  constructor
  · have cut : tokenize returnSource = .error ⟨.strayCharacter '?', ⟨2, 3⟩⟩ := by cbv
    have law := (shown_lines_counted .default .default returnSource none none).1
    have row := law _ (2, "\x7b\x7b ? \x7d\x7d") (readTemplate_uncut cut) (by decide +kernel)
    have first : PlainTo returnSource 1 := by decide +kernel
    have both : PlainTo returnSource 2 := by decide +kernel
    exact ⟨_, readTemplate_uncut cut, by decide +kernel, (row.own first).2 both⟩
  · have accepted : (Environment.default.ofSource absentPage none none).isOk = true := by
      decide +kernel
    have failed : (Environment.default.ofSource absentPage none none >>= fun template =>
        template.render (some Environment.default) [] []) = .error (.diagnostic absentReport) := by
      decide +kernel
    obtain ⟨template, made⟩ := eq_ok_of_isOk accepted
    rw [made, ok_bind] at failed
    have law := (shown_lines_counted .default .default absentPage none none).2
    obtain ⟨tree, _, shown⟩ := law template [] [] [] made rfl rfl
    -- Nothing is given to the page, and there is no loader that could raise anything.
    have quiet (fault : Fault) : ¬ Environment.default.Raises [] fault := by
      rintro (⟨loader, path, ⟨⟩, _⟩ | raises)
      obtain ⟨_, among, _⟩ := Value.raises_dict.1 raises
      cases among
    have silent : ¬ ∃ raised, Environment.default.Raises [] raised ∧
        raised.report? = some absentReport := by
      rintro ⟨raised, raises, _⟩
      exact quiet raised raises
    obtain ⟨callers, last, text, entered, kept, _, rows⟩ :=
      (shown _ _ _ failed rfl).resolve_right silent
    exact ⟨template, tree, made, failed, callers, last, text, entered, kept, rows _ (by simp)⟩

/-- A form feed ends a line that is shown, and none that is counted. -/
theorem shown_line_cut :
    ∃ fault, readTemplate none none "a\x0c\x7b\x7b ? \x7d\x7d" =
        .error (.diagnostic (.malformed fault)) ∧
      fault.sourceLine? = some (1, "a") ∧
      countedLines "a\x0c\x7b\x7b ? \x7d\x7d".toList = ["a\x0c\x7b\x7b ? \x7d\x7d".toList] ∧
      ¬ShowsCounted "a\x0c\x7b\x7b ? \x7d\x7d" (1, "a") := by
  have cut : tokenize "a\x0c\x7b\x7b ? \x7d\x7d" = .error ⟨.strayCharacter '?', ⟨1, 5⟩⟩ := by cbv
  have counted : countedLines "a\x0c\x7b\x7b ? \x7d\x7d".toList =
      ["a\x0c\x7b\x7b ? \x7d\x7d".toList] := by decide
  refine ⟨_, readTemplate_uncut cut, by decide +kernel, counted, ?_⟩
  rintro ⟨index, line, number, found, same⟩
  -- The first counted line is the whole source.
  obtain rfl : index = 0 := by omega
  rw [counted] at found
  cases found
  revert same
  decide

end Stencil
