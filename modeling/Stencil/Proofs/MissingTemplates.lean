import Mathlib
import Stencil.Proofs.ErrorPlace
import Stencil.Proofs.Parts

/-! A component whose template is missing is reported once, where it is invoked. -/

namespace Stencil

/-- An environment has no template under a path, and the message says so: there is no loader, the
loader has no such source, or it is of the host program and reports that by itself. -/
def Environment.Lacks (environment : Environment) (path message : String) : Prop :=
  match environment.loader with
  | none => message = "Template '" ++ path ++ "' not found: no loader configured"
  | some loader =>
    (loader.source? path = .ok none ∧ message = "Template '" ++ path ++ "' not found") ∨
      ∃ fault, loader.source? path = .error fault ∧ fault.failure.missing? = some message

/-- A template that is missing cannot be loaded, and the failure says what is missing. -/
theorem Environment.Lacks.script {environment : Environment} {path message : String}
    (lacks : environment.Lacks path message) :
    ∃ failure, environment.script path = .error failure ∧ failure.missing? = some message := by
  unfold Lacks at lacks
  have load : ∃ failure, environment.load path = .error failure ∧
      failure.missing? = some message := by
    unfold Environment.load
    split at lacks
    · rename_i none
      exact ⟨_, by rw [none], by rw [lacks, Failure.missing?]⟩
    · rename_i loader some
      -- Either the environment reports what the loader has not, or the loader does so.
      rcases lacks with ⟨absent, rfl⟩ | ⟨fault, raised, missing⟩
      · exact ⟨.diagnostic (.notFound ("Template '" ++ path ++ "' not found")),
          by simp only [some, Loader.source, absent, ofFault, ok_bind], rfl⟩
      · exact ⟨_, by simp only [some, Loader.source, raised, ofFault, error_bind], missing⟩
  obtain ⟨failure, failed, missing⟩ := load
  exact ⟨failure, by simp only [Environment.script, failed, error_bind], missing⟩

/-- On a line that counts from one, a place is a name with the line behind it. -/
theorem location_line (name : Option String) {line : Int} (positive : 0 < line) :
    location name (some line) = nameOrUnnamed name ++ ":" ++ writeInteger line := by
  -- A line that is counted from one is printed.
  have counted : line ≠ 0 := by omega
  simp only [location, lineSuffix, if_neg counted, String.append_assoc]

namespace Activation

section

variable {environment : Environment} {active last : Activation} {callers : Callers}
  {position : Position} {called : Node} {variant : Option String} {word message : String}

/-- A component whose name is known and whose template is missing is reported as missing, before its
data is looked at. -/
theorem effect_missedKnown (known : called.knownName? = some word)
    (lacks : environment.Lacks (componentPath word variant active.script.site.extension) message)
    (given : Option Node) (only : Bool) :
    active.effect environment (.component position called variant given only) =
      .error (.diagnostic (.notFound (message ++ " (invoked from " ++
        location active.script.site.caller (some position.line) ++ ")"))) := by
  -- The address is known when the template is compiled, and the load under it fails with the
  -- message of the loader.
  obtain ⟨failure, unloaded, missing⟩ := lacks.script
  have absent : (environment.components active.script.strict).load
      (componentPath word variant active.script.site.extension) = .error failure := unloaded
  simp only [effect, Surroundings.invocation, printed_known known, ok_bind, Surroundings.summon,
    Surroundings.pathOf, known, Option.isSome_some, if_true, absent, mapError_error, error_bind,
    map_error, Failure.missedKnown, missing]
  rfl

/-- A component whose name is an expression and whose template is missing is reported under the name
that it came to, before its data is looked at. -/
theorem effect_missedDeferred (unknown : called.knownName? = none)
    (printed : called.printed (lookupIn active.script.strict (active.frame.atLine position.line)
      active.context) = .ok word)
    (lacks : environment.Lacks (componentPath word variant environment.extension) message)
    (given : Option Node) (only : Bool) :
    active.effect environment (.component position called variant given only) =
      .error (.diagnostic (.unresolvable ⟨word, componentPath word variant environment.extension,
        active.script.site.caller, some position.line⟩)) := by
  -- The name is printed first, and then the load under its address fails.
  obtain ⟨failure, unloaded, missing⟩ := lacks.script
  have absent : (environment.components active.script.strict).load
      (componentPath word variant environment.extension) = .error failure := unloaded
  have named : called.printed ((environment.components active.script.strict).lookup
      (active.frame.atLine position.line) active.context) = .ok word := printed
  have extension : (environment.components active.script.strict).extension =
      environment.extension := rfl
  simp only [effect, Surroundings.invocation, named, ok_bind, Surroundings.summon,
    Surroundings.pathOf, unknown, Option.isSome_none, Bool.false_eq_true, if_false, extension,
    absent, mapError_error, error_bind, map_error, Failure.missedDeferred, missing]
  rfl

/-- A template that reaches a node fails with the diagnostic of the node, whatever stands behind. -/
theorem renderIn_reported {node : Node} {report : Diagnostic} {before after : List Node}
    {text : String} {template : Template}
    (started : active.script.bodyText (environment.components active.script.strict) active.frame
      active.context before = .ok text)
    (failed : active.effect environment node = .error (.diagnostic report))
    (made : template.IsOf (active.script.withBody (before ++ node :: after))) :
    template.renderIn environment active.frame.levels active.frame active.context =
      .error (.diagnostic report) := by
  -- The nodes before this one render, and this one stops the body. Its report passes through the
  -- frame.
  rw [renderIn_part made]
  exact bodyText_stops started
    (nodeText_eq_error.2 ⟨.diagnostic report, rfl, .inl (step_eq_error.2 (.inl failed))⟩) after

variable (environment position called variant) in
/-- A component is reported whatever data it has: when it is invoked, and in any template that
reaches it, even if the data of the component there is another one. -/
structure Misses (active : Activation) (report : Diagnostic) : Prop where
  effect (data : Option Node) (only : Bool) :
    active.effect environment (.component position called variant data only) =
      .error (.diagnostic report)
  -- The nodes before the component have rendered, and those behind it make no difference.
  renderIn {before after : List Node} {text : String} {data : Option Node} {only : Bool}
    {template : Template}
    (started : active.script.bodyText (environment.components active.script.strict) active.frame
      active.context before = .ok text)
    (made : template.IsOf (active.script.withBody
      (before ++ .component position called variant data only :: after))) :
    template.renderIn environment active.frame.levels active.frame active.context =
      .error (.diagnostic report)

/-- A component that fails whatever its data is reported so by any template that reaches it. -/
theorem Misses.of_effect {report : Diagnostic} (failed : ∀ data only, active.effect environment
      (.component position called variant data only) = .error (.diagnostic report)) :
    active.Misses environment position called variant report where
  -- The failure of the effect is what the render reports.
  effect := failed
  renderIn started made := renderIn_reported started (failed _ _) made

end

end Activation

/-- A render that reaches a component without a template fails with one report of that, which names
the innermost template and its line, and whatever the data of the component is: a known name is
missing in the words of the loader, and any other one cannot be resolved. -/
theorem render_missing (maker environment : Environment) {source : String}
    {name file : Option String} {template : Template}
    (made : maker.ofSource source name file = .ok template) {arguments : List Value}
    {keywords context : Dict} (named : checkKeywords keywords = .ok ())
    (rooted : rootContext environment.globals arguments keywords = .ok context) :
    ∃ tree, readTemplate name file source = .ok tree ∧
    let root := environment.root (maker.scriptOf tree name file (some source)) context
    ∀ callers last position called variant data only, root.Enters environment callers last →
      last.Reaches environment (.component position called variant data only) →
      let caller := firstName last.script.site.name last.script.site.file
      let outcome := template.render (some environment) arguments keywords
      (∀ word message, called.knownName? = some word →
        environment.Lacks (componentPath word variant last.script.site.extension) message →
        let report := Diagnostic.notFound (message ++ " (invoked from " ++
          nameOrUnnamed caller ++ ":" ++ writeInteger position.line ++ ")")
        outcome = .error (.diagnostic report) ∧
          last.Misses environment position called variant report) ∧
      ∀ word message, called.knownName? = none →
        called.printed (lookupIn last.script.strict (last.frame.atLine position.line)
          last.context) = .ok word →
        let path := componentPath word variant environment.extension
        environment.Lacks path message →
        let report := Diagnostic.unresolvable ⟨word, path, caller, some position.line⟩
        outcome = .error (.diagnostic report) ∧
          last.Misses environment position called variant report := by
  obtain ⟨tree, read, compiled⟩ := ofSource_eq_ok.1 made
  refine ⟨tree, read, ?_⟩
  intro root callers last position called variant data only entered reached caller outcome
  have rendered : outcome = root.text environment := render_eq_text compiled named rooted
  -- The report of the component is that of the whole render, as it passes all callers.
  have reported {report : Diagnostic} (failed : ∀ given cutOff, last.effect environment
      (.component position called variant given cutOff) = .error (.diagnostic report)) :
      outcome = .error (.diagnostic report) ∧
        last.Misses environment position called variant report :=
    ⟨rendered.trans (Activation.text_reported entered reached
      (Activation.step_eq_error.2 (.inl (failed data only)))),
      .of_effect failed⟩
  constructor
  · intro word message known lacks report
    have placed : root.IsPlaced := ⟨rfl, rfl, readTemplate_lines read⟩
    have positive : 0 < position.line := (entered.placed placed).1.line reached
    refine reported fun given cutOff => ?_
    rw [Activation.effect_missedKnown known lacks, location_line _ positive]
    simp only [report, String.append_assoc]
    rfl
  · intro word message unknown printed path lacks report
    exact reported fun given cutOff =>
      Activation.effect_missedDeferred unknown printed lacks given cutOff

/-- A component that prints its name, and invokes another one under the name of a variable, with
data that cannot be evaluated. -/
def gallerySource : String :=
  "\x7b\x7b name \x7d\x7d\n\x7b% view part \x7bof: absent\x7d %\x7d"

/-- The invocation in the component. -/
def partNode : Node :=
  .component ⟨2, 3⟩ (.name ⟨2, 8⟩ "part") none
    (some (.hash ⟨2, 13⟩ [.constant ⟨2, 14⟩ (.text "of")] [.name ⟨2, 18⟩ "absent"])) false

/-- The tree of the component. -/
def galleryTree : Node :=
  .template .start [.output ⟨1, 0⟩ (.name ⟨1, 3⟩ "name"), .data ⟨1, 10⟩ "\n", partNode]

/-- An environment with that component only. -/
def galleryEnvironment : Environment :=
  { Environment.default with loader := some (.held [("Gallery/gallery.html", gallerySource)]) }

/-- The component as it is loaded. -/
def galleryScript : Script :=
  galleryEnvironment.scriptOf galleryTree (some "Gallery/gallery.html") none (some gallerySource)

/-- A page that invokes the component. -/
def galleryPage : String :=
  "\x7b% view 'Gallery' %\x7d"

/-- The invocation in the page. -/
def galleryNode : Node :=
  .component ⟨1, 3⟩ (.constant ⟨1, 8⟩ (.text "Gallery")) none none false

/-- What the page is rendered with: the name of a component that there is not. -/
def galleryContext : Dict :=
  [(.text "part", .text "Gone")]

/-- What the component is rendered with. -/
def galleryInner : Dict :=
  componentContext "Gallery" ⟨[], []⟩ galleryContext

/-- A page that invokes the missing component itself, on its second line. -/
def gonePage : String :=
  "\n\x7b% view 'Gone' \x7bof: absent\x7d %\x7d"

/-- The invocation of the missing component. -/
def goneNode : Node :=
  .component ⟨2, 3⟩ (.constant ⟨2, 8⟩ (.text "Gone")) none
    (some (.hash ⟨2, 15⟩ [.constant ⟨2, 16⟩ (.text "of")] [.name ⟨2, 20⟩ "absent"])) false

/-- The first page enters the component, on whose second line another one cannot be resolved; the
second page, which has no name, misses that one itself. -/
theorem render_missing_gallery :
    (∃ template, galleryEnvironment.ofSource galleryPage (some "page") none = .ok template ∧
      template.render (some galleryEnvironment) [.dict galleryContext] [] =
        .error (.diagnostic (.unresolvable
          ⟨"Gone", "Gone/gone.html", some "Gallery/gallery.html", some 2⟩))) ∧
    ∃ template, galleryEnvironment.ofSource gonePage none none = .ok template ∧
      template.render (some galleryEnvironment) [] [] = .error (.diagnostic (.notFound
        "Template 'Gone/gone.html' not found (invoked from <template>:2)")) := by
  constructor
  · have read : readTemplate (some "page") none galleryPage =
        .ok (.template .start [galleryNode]) := by cbv
    have loaded : galleryEnvironment.script "Gallery/gallery.html" = .ok galleryScript := by
      have inside : readTemplate (some "Gallery/gallery.html") none gallerySource =
          .ok galleryTree := by cbv
      have compiled : galleryScript.compile.isOk = true := by decide +kernel
      obtain ⟨template, compiled⟩ := eq_ok_of_isOk compiled
      exact Environment.script_eq_ok.2 ⟨_, galleryTree, template, rfl, inside, rfl, compiled⟩
    have accepted : (galleryEnvironment.ofSource galleryPage (some "page") none).isOk = true := by
      decide +kernel
    obtain ⟨template, made⟩ := eq_ok_of_isOk accepted
    obtain ⟨tree, again, missed⟩ := render_missing galleryEnvironment galleryEnvironment made
      (show checkKeywords [] = .ok () from rfl)
      (show rootContext galleryEnvironment.globals [.dict galleryContext] [] = .ok galleryContext
        from rfl)
    obtain rfl := Except.ok.inj (read.symm.trans again)
    let root := galleryEnvironment.root (galleryEnvironment.scriptOf
      (.template .start [galleryNode]) (some "page") none (some galleryPage)) galleryContext
    have summoned : (galleryEnvironment.components true).summon root.script.site 1
        (.constant ⟨1, 8⟩ (.text "Gallery")) none "Gallery" = .ok galleryScript :=
      mapError_eq_ok.2 loaded
    have opened : root.step galleryEnvironment galleryNode =
        .ok (.opens galleryScript galleryInner) :=
      Activation.step_opens.2 ⟨Activation.effect_component.2 (invocation_eq_ok.2
        ⟨"Gallery", galleryContext, ⟨[], []⟩, rfl, summoned, rfl, rfl, rfl⟩), by decide⟩
    -- The page reaches its only node at once, and the component has printed its name before.
    have entered : root.Enters galleryEnvironment [(root.script, 1)]
        (root.inside 1 galleryScript galleryInner) :=
      .through ⟨[], [], "", rfl, rfl⟩ opened (.here _)
    have reached : (root.inside 1 galleryScript galleryInner).Reaches galleryEnvironment partNode :=
      ⟨[.output ⟨1, 0⟩ (.name ⟨1, 3⟩ "name"), .data ⟨1, 10⟩ "\n"], [], "Gallery\n", rfl,
        by decide +kernel⟩
    obtain ⟨_, deferred⟩ := missed _ _ _ _ _ _ _ entered reached
    obtain ⟨reported, _⟩ := deferred "Gone" "Template 'Gone/gone.html' not found" rfl rfl
      (.inl ⟨by decide +kernel, by decide +kernel⟩)
    refine ⟨template, made, reported.trans ?_⟩
    decide +kernel
  · have read : readTemplate none none gonePage =
        .ok (.template .start [.data .start "\n", goneNode]) := by cbv
    have accepted : (galleryEnvironment.ofSource gonePage none none).isOk = true := by
      decide +kernel
    obtain ⟨template, made⟩ := eq_ok_of_isOk accepted
    obtain ⟨tree, again, missed⟩ := render_missing galleryEnvironment galleryEnvironment made
      (show checkKeywords [] = .ok () from rfl)
      (show rootContext galleryEnvironment.globals [] [] = .ok [] from rfl)
    obtain rfl := Except.ok.inj (read.symm.trans again)
    obtain ⟨known, _⟩ := missed [] _ _ _ _ _ _ (.here _)
      (show Activation.Reaches _ _ goneNode from ⟨[.data .start "\n"], [], "\n", rfl, rfl⟩)
    obtain ⟨reported, _⟩ := known "Gone" "Template 'Gone/gone.html' not found" rfl
      (.inl ⟨by decide +kernel, by decide +kernel⟩)
    refine ⟨template, made, reported.trans ?_⟩
    decide +kernel

end Stencil
