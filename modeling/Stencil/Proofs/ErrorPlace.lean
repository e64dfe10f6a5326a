import Stencil.Proofs.FailureOrigin
import Stencil.Proofs.SourceLines

/-! A render fails with the place of its first failing step, in the innermost template. -/

namespace Stencil

/-- The names and lines of callers, outermost first; a caller without a name is left out. -/
def Callers.places (callers : Callers) : List (String × Int) :=
  callers.filterMap fun caller =>
    (nonempty? caller.1.site.name).map fun name => (name, caller.2)

/-- What is reported of a failure that comes up on a line of a script below its callers, and that
says a text: a mishap becomes a failure of the render at that place, and a diagnostic stays as it
is. -/
def Failure.reportAt (script : Script) (line : Int) (callers : Callers) (text : String) :
    Failure → Diagnostic
  | .diagnostic report => report
  -- The place is that of the node whose step failed, whatever was invoked around it.
  | .mishap accident => .runtime
    { code := .runtimeError
      message := Frame.words accident.kindName text
      template := script.site.name
      line := some line
      suggestion := none
      snippet := (nonempty? script.source).map fun source =>
        .around source line Frame.snippetReach none
      stack := callers.places }

namespace Activation

/-- An activation that knows its place: its frame names its script, whose lines count from one. -/
structure IsPlaced (active : Activation) : Prop where
  named : active.frame.template = active.script.site.name
  sourced : active.frame.source = active.script.source
  lined : ∀ node ∈ active.script.tree.body, 0 < node.line

section

variable {environment : Environment} {active last : Activation} {node : Node} {callers : Callers}

/-- A node that is reached stands on a line of its script. -/
theorem IsPlaced.line (placed : active.IsPlaced) (reached : active.Reaches environment node) :
    0 < node.line := by
  -- A node that is reached is one of the body, and all of these have lines.
  obtain ⟨before, after, _, split, _⟩ := reached
  exact placed.lined node (by simp [split])

/-- The stack grows by the name of a script, if it has one, and by the line that is reached. -/
theorem IsPlaced.stackAbove (placed : active.IsPlaced) {line : Int} (positive : 0 < line) :
    (active.frame.atLine line).stackAbove =
      active.frame.stack ++ Callers.places [(active.script, line)] := by
  -- The frame adds itself to the stack just if its template has a name, and the list of callers
  -- counts it in the same case.
  have title : (active.frame.atLine line).template = active.script.site.name := placed.named
  simp only [Frame.stackAbove, title, Callers.places, List.filterMap_cons, List.filterMap_nil]
  cases nonempty? active.script.site.name with
  | none => simp [Frame.atLine]
  | some name => simp [Frame.atLine, positive]

/-- The snippet on a line is cut from the script's own source. -/
theorem IsPlaced.snippet (placed : active.IsPlaced) {line : Int} (positive : 0 < line) :
    (active.frame.atLine line).snippetOf active.frame.source =
      (nonempty? active.script.source).map fun source =>
        .around source line Frame.snippetReach none := by
  -- The line is known, so the snippet is missing only where the source is.
  have reached : (active.frame.atLine line).line? = some line :=
    if_neg (by simp [Frame.atLine]; omega)
  simp only [Frame.snippetOf, reached, placed.sourced]
  cases nonempty? active.script.source <;> rfl

/-- A failure that says a text is reported at its place as it leaves a script. -/
theorem IsPlaced.locate (placed : active.IsPlaced) {line : Int} (positive : 0 < line)
    (stack : active.frame.stack = callers.places) {own : Failure} {text : String}
    (told : own.message = .ok text) :
    (active.frame.atLine line).locate active.script.source own =
      .diagnostic (own.reportAt active.script line callers text) := by
  -- A diagnostic stays what it is. An accident is reported with the place, the stack and the
  -- snippet of the frame, and these are the ones of the script.
  cases own with
  | diagnostic report => rfl
  | mishap accident =>
    have reached : (active.frame.atLine line).line? = some line :=
      if_neg (by simp [Frame.atLine]; omega)
    have snippet := placed.snippet positive
    rw [placed.sourced] at snippet
    have title : (active.frame.atLine line).template = active.script.site.name := placed.named
    have above : (active.frame.atLine line).stack = callers.places := stack
    have message : accident.message = .ok text := told
    simp only [Frame.locate, message, Frame.report, Failure.reportAt, reached, snippet, title,
      above]

/-- A template that is loaded goes by its path, and its lines count from one. -/
theorem script_placed {path : String} {script : Script}
    (loaded : environment.script path = .ok script) :
    script.site.name = some path ∧ ∀ node ∈ script.tree.body, 0 < node.line := by
  -- A loaded script is named by its address, and its nodes were read from a source.
  obtain ⟨source, tree, _, _, read, rfl, _⟩ := Environment.script_eq_ok.1 loaded
  exact ⟨rfl, readTemplate_lines read⟩

/-- A component that is opened knows its place. -/
theorem inside_placed {component : Script} {inner : Dict} (line : Int)
    (opened : active.effect environment node = .ok (.opens component inner)) :
    (active.inside line component inner).IsPlaced := by
  obtain ⟨path, proper, loaded⟩ := effect_loaded opened
  obtain ⟨title, lines⟩ := script_placed loaded
  refine ⟨?_, rfl, lines⟩
  -- A path is never empty, so that the component is called by it.
  have filled : nonempty? (some path) = some path := by simpa [nonempty?] using proper
  simp [inside, Frame.child, Script.componentName, title, filled]

/-- Whatever is entered knows its place, and its stack has grown by its callers. -/
theorem Enters.placed (entered : active.Enters environment callers last)
    (placed : active.IsPlaced) :
    last.IsPlaced ∧ last.frame.stack = active.frame.stack ++ callers.places := by
  induction entered with
  | here active => exact ⟨placed, by simp [Callers.places]⟩
  | @through active last node component inner callers reached opened _ ih =>
    obtain ⟨deep, stack⟩ := ih (inside_placed node.line (step_opens.1 opened).1)
    refine ⟨deep, ?_⟩
    -- The caller itself comes first, and then the callers that it has entered.
    have first : (active.inside node.line component inner).frame.stack =
        active.frame.stack ++ Callers.places [(active.script, node.line)] :=
      placed.stackAbove (placed.line reached)
    rw [stack, first, List.append_assoc, Callers.places, Callers.places, Callers.places,
      ← List.filterMap_append, List.singleton_append]

/-- A failure that says a text leaves a script without callers as what is reported of it. -/
theorem IsPlaced.leave_told (placed : active.IsPlaced) (bare : active.frame.stack = [])
    (entered : active.Enters environment callers last) (reached : last.Reaches environment node)
    {own : Failure} {text : String} (told : own.message = .ok text) :
    own.leave active.frame (callers ++ [(last.script, node.line)]) =
      .diagnostic (own.reportAt last.script node.line callers text) := by
  obtain ⟨deep, stack⟩ := entered.placed placed
  rw [bare, List.nil_append] at stack
  -- The innermost script makes a diagnostic of it, which then passes all callers.
  rw [entered.leave, deep.locate (deep.line reached) stack told, leave_diagnostic]

/-- A failure that says nothing leaves its script as what goes wrong when it is asked. -/
theorem leave_untold (entered : active.Enters environment callers last) {own : Failure}
    {other : Fault} (failed : own.message = .error other) (line : Int) :
    own.leave active.frame (callers ++ [(last.script, line)]) =
      other.failure.leave active.frame callers := by
  rw [entered.leave]
  -- Only a mishap can fail to say anything, and then it is given up.
  cases own with
  | diagnostic report => cases failed
  | mishap accident =>
    have message : accident.message = .error other := failed
    simp only [Frame.locate, message]

/-- A report that leaves a script without callers is the one that its failing step ends in, or it is
made of a mishap at a place that is reached: of the step, or of a component around it. -/
theorem IsPlaced.leave_report (placed : active.IsPlaced) (bare : active.frame.stack = [])
    (entered : active.Enters environment callers last) (reached : last.Reaches environment node)
    {own : Failure} {report : Diagnostic}
    (left : own.leave active.frame (callers ++ [(last.script, node.line)]) = .diagnostic report) :
    own.report? = some report ∨ ∃ outer inmost place accident text,
      active.Enters environment outer inmost ∧ inmost.Reaches environment place ∧
        report = Failure.reportAt inmost.script place.line outer text (.mishap accident) := by
  -- The induction is on the number of callers, which are left as long as there is nothing to tell.
  induction count : callers.length using Nat.strongRecOn generalizing callers last node own with
  | _ length ih =>
    cases told : own.message with
    | ok text =>
      rw [placed.leave_told bare entered reached told] at left
      cases left
      cases own with
      | diagnostic report => exact .inl rfl
      | mishap accident => exact .inr ⟨callers, last, node, accident, text, entered, reached, rfl⟩
    | error other =>
      rw [leave_untold entered told] at left
      obtain ⟨kind, rfl⟩ := Failure.message_told told
      have ended : other.failure.report? = some report →
          (Failure.mishap (.untold kind other)).report? = some report :=
        other.failure_report.symm.trans
      rcases List.eq_nil_or_concat callers with rfl | ⟨outside, caller, rfl⟩
      · have whole : other.failure = .diagnostic report := left
        exact .inl (ended (by rw [whole, Failure.report?]))
      · -- What goes wrong in the telling leaves the component around the script.
        rw [List.concat_eq_append] at entered left count
        obtain ⟨parent, around, below, passed, rfl⟩ := entered.parent
        have fewer : outside.length < length := by
          rw [List.length_append, List.length_singleton] at count
          omega
        exact (ih _ fewer below passed left rfl).imp_left ended

/-- A step that fails with an undefined variable says its place, or has been given the report. -/
theorem step_undefined {allowed : Fault → Prop} (placed : active.IsPlaced)
    (only : active.RaisesOnly environment allowed) (reached : active.Reaches environment node)
    {fault : UndefinedFault}
    (failed : active.step environment node = .error (.diagnostic (.undefined fault))) :
    (fault.template = nameOrUnnamed active.script.site.name ∧ fault.line = some node.line ∧
      fault.snippet = (nonempty? active.script.source).map fun source =>
        .around source node.line Frame.snippetReach none) ∨
      allowed (.library (.undefined fault)) := by
  -- A component that is too deep is no undefined variable, so that the effect has failed.
  rcases step_eq_error.1 failed with effect | ⟨component, inner, _, _, other⟩
  · rcases effect_arises only reached.within effect with ⟨title, line, snippet⟩ | raised
    · refine .inl ⟨title.trans (congrArg nameOrUnnamed placed.named), line, snippet.trans ?_⟩
      exact placed.snippet (placed.line reached)
    · obtain ⟨cause, permitted, same⟩ := raised
      cases cause <;> cases same
      exact .inr permitted
  · cases other

/-- A step that fails with something that cannot be told has been given it. -/
theorem step_untold {allowed : Fault → Prop} (only : active.RaisesOnly environment allowed)
    (reached : active.Reaches environment node) {kind : FaultKind} {other : Fault}
    (failed : active.step environment node = .error (.mishap (.untold kind other))) :
    allowed (.untold kind other) := by
  -- Whatever else a step fails with can be told.
  rcases step_eq_error.1 failed with effect | ⟨component, inner, _, _, other⟩
  · rcases effect_arises only reached.within effect with impossible | raised
    · exact impossible.elim
    · obtain ⟨cause, permitted, same⟩ := raised
      cases cause <;> cases same
      exact permitted
  · cases other

end

end Activation

/-- A render fails with its first failing step. What can be told of the failure is reported once, at
the place of the step. What cannot be told was raised by the host program, and gives way to what
goes wrong in the telling, which the caller locates next; if there is no caller, it leaves the
render. -/
theorem render_first_failure (maker environment : Environment) {source : String}
    {name file : Option String} {template : Template}
    (made : maker.ofSource source name file = .ok template) {arguments : List Value}
    {keywords context : Dict} (named : checkKeywords keywords = .ok ())
    (rooted : rootContext environment.globals arguments keywords = .ok context) :
    ∃ tree, readTemplate name file source = .ok tree ∧
    let root := environment.root (maker.scriptOf tree name file (some source)) context
    let outcome := template.render (some environment) arguments keywords
    -- It fails just if some step does, with what that is outside all of its callers.
    (∀ failure, outcome = .error failure ↔
      ∃ callers last node own, root.Enters environment callers last ∧
        last.Reaches environment node ∧ last.step environment node = .error own ∧
        failure = own.leave root.frame (callers ++ [(last.script, node.line)])) ∧
    (∀ callers last node own, root.Enters environment callers last →
      last.Reaches environment node → last.step environment node = .error own →
      -- What can be told is reported at the place of the step.
      (∀ text, own.message = .ok text →
        own.leave root.frame (callers ++ [(last.script, node.line)]) =
          .diagnostic (own.reportAt last.script node.line callers text)) ∧
      -- What cannot be told is given up for another failure, which leaves the callers.
      (∀ other, own.message = .error other →
        (∃ kind, own = .mishap (.untold kind other) ∧
          environment.Raises context (.untold kind other)) ∧
        own.leave root.frame (callers ++ [(last.script, node.line)]) =
          other.failure.leave root.frame callers) ∧
      -- An undefined variable says its place by itself, unless the host program reports it.
      ∀ fault, own = .diagnostic (.undefined fault) →
        (fault.template = nameOrUnnamed last.script.site.name ∧ fault.line = some node.line ∧
          fault.snippet = (nonempty? last.script.source).map fun source =>
            .around source node.line Frame.snippetReach none) ∨
          environment.Raises context (.library (.undefined fault))) ∧
    -- Where all that the host program raises can be told, no mishap leaves the render.
    ((∀ kind other, ¬ environment.Raises context (.untold kind other)) →
      (∃ text, outcome = .ok text) ∨ ∃ report, outcome = .error (.diagnostic report)) := by
  obtain ⟨tree, read, built⟩ := bind_eq_ok.1 made
  refine ⟨tree, read, ?_⟩
  intro root outcome
  have same : outcome = root.text environment := render_eq_text (ofTree_isOf built) named rooted
  have placed : root.IsPlaced := ⟨rfl, rfl, readTemplate_lines read⟩
  have only : root.RaisesOnly environment (environment.Raises context) :=
    root_raisesOnly read context
  -- Only what the host program raises cannot be told.
  have untold {callers : Callers} {last : Activation} {node : Node} {own : Failure} {other : Fault}
      (entered : root.Enters environment callers last) (reached : last.Reaches environment node)
      (stopped : last.step environment node = .error own) (failed : own.message = .error other) :
      ∃ kind, own = .mishap (.untold kind other) ∧
        environment.Raises context (.untold kind other) := by
    obtain ⟨kind, rfl⟩ := Failure.message_told failed
    exact ⟨kind, rfl, Activation.step_untold (entered.raisesOnly only) reached stopped⟩
  refine ⟨fun failure => by rw [same, Activation.text_eq_error], ?_, fun telling => ?_⟩
  · intro callers last node own entered reached stopped
    refine ⟨fun text told => placed.leave_told rfl entered reached told, fun other failed =>
      ⟨untold entered reached stopped failed, Activation.leave_untold entered failed _⟩, ?_⟩
    rintro fault rfl
    exact Activation.step_undefined (entered.placed placed).1 (entered.raisesOnly only) reached
      stopped
  · rw [same]
    cases ended : root.text environment with
    | ok text => exact .inl ⟨text, rfl⟩
    | error failure =>
      -- The failing step can be told, so that a report of it leaves the render.
      obtain ⟨callers, last, node, own, entered, reached, stopped, rfl⟩ :=
        Activation.text_eq_error.1 ended
      cases told : own.message with
      | ok text => exact .inr ⟨_, congrArg _ (placed.leave_told rfl entered reached told)⟩
      | error other =>
        obtain ⟨kind, _, raised⟩ := untold entered reached stopped told
        exact absurd raised (telling kind other)

/-- An environment with a component that prints its name, and then a member of what it is given. -/
def badgeEnvironment : Environment :=
  { Environment.default with
    loader := some (.held
      [("Badge/badge.html", "\x7b\x7b name \x7d\x7d\n\x7b\x7b user.rank \x7d\x7d")]) }

/-- A page that invokes the component twice, and gives it nobody at first. -/
def badgeSource : String :=
  "\x7b% view 'Badge' \x7buser: null\x7d %\x7d\n\x7b% view kind %\x7d"

/-- What the page is rendered with: someone whose members cannot be read. -/
def badgeContext : Dict :=
  [(.text "kind", .text "Badge"),
   (.text "user", .object 0 "Guarded" (.ok "<Guarded>") (.ok "<Guarded>")
      (fun _ => .error (.raised (.other "PermissionError") (some "no")))
      fun _ => .error (.raised .missingKey none))]

/-- What is reported of the page: the second line of the component, below the second of the page. -/
def badgeReport : Diagnostic :=
  .runtime
    { code := .runtimeError
      message := "no"
      template := some "Badge/badge.html"
      line := some 2
      suggestion := none
      snippet := some
        ⟨[(1, "\x7b\x7b name \x7d\x7d"), (2, "\x7b\x7b user.rank \x7d\x7d")], 2, none⟩
      stack := [("page", 2)] }

/-- The page fails in its second component, after the first one has been rendered. -/
theorem render_first_failure_badge :
    ∃ template tree callers last node own,
      badgeEnvironment.ofSource badgeSource (some "page") none = .ok template ∧
      readTemplate (some "page") none badgeSource = .ok tree ∧
      template.render (some badgeEnvironment) [.dict badgeContext] [] =
        .error (.diagnostic badgeReport) ∧
      let root := badgeEnvironment.root
        (badgeEnvironment.scriptOf tree (some "page") none (some badgeSource)) badgeContext
      root.Enters badgeEnvironment callers last ∧ last.Reaches badgeEnvironment node ∧
        last.step badgeEnvironment node = .error own ∧
        own.leave root.frame (callers ++ [(last.script, node.line)]) = .diagnostic badgeReport := by
  -- The render is evaluated to its report. Where it came from is what the general statement says.
  have accepted : (badgeEnvironment.ofSource badgeSource (some "page") none).isOk = true := by
    decide +kernel
  have rendered : (badgeEnvironment.ofSource badgeSource (some "page") none >>= fun template =>
      template.render (some badgeEnvironment) [.dict badgeContext] []) =
        .error (.diagnostic badgeReport) := by
    decide +kernel
  obtain ⟨template, made⟩ := eq_ok_of_isOk accepted
  rw [made, ok_bind] at rendered
  have named : checkKeywords [] = .ok () := rfl
  have rooted : rootContext badgeEnvironment.globals [.dict badgeContext] [] =
      .ok badgeContext := rfl
  obtain ⟨tree, read, fails, _, _⟩ :=
    render_first_failure badgeEnvironment badgeEnvironment made named rooted
  obtain ⟨callers, last, node, own, entered, reached, stopped, same⟩ := (fails _).1 rendered
  exact ⟨template, tree, callers, last, node, own, made, read, rendered, entered, reached, stopped,
    same.symm⟩

/-- What is given to a page: an object without a text, whose failure has none either. -/
def brittleContext : Dict :=
  [(.text "x", .object 0 "Brittle"
    (.error (.untold .missingKey (.raised (.other "ValueError") (some "no"))))
    (.error (.raised (.other "ValueError") (some "no")))
    (fun _ => .error (.raised .missingAttribute none))
    fun _ => .error (.raised .wrongKind none))]

/-- The failure in the telling leaves the render of a page as it is. -/
theorem untold_leaves_render :
    ∃ template, Environment.default.ofSource "\x7b\x7b x \x7d\x7d" (some "page") none =
        .ok template ∧
      template.render (some Environment.default) [.dict brittleContext] [] =
        .error (.mishap (.raised (.other "ValueError") (some "no"))) := by
  -- The value of the context raises while its own error is told, so the evaluation ends without a
  -- report.
  have accepted : (Environment.default.ofSource "\x7b\x7b x \x7d\x7d" (some "page") none).isOk =
      true := by
    decide +kernel
  have rendered : (Environment.default.ofSource "\x7b\x7b x \x7d\x7d" (some "page") none >>=
      fun template => template.render (some Environment.default) [.dict brittleContext] []) =
        .error (.mishap (.raised (.other "ValueError") (some "no"))) := by
    decide +kernel
  obtain ⟨template, made⟩ := eq_ok_of_isOk accepted
  rw [made, ok_bind] at rendered
  exact ⟨template, made, rendered⟩

end Stencil
