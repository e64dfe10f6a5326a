import Stencil.Proofs.RenderMeaning
import Stencil.Proofs.WrittenTrees

/-! A component is the same whether its name is known at once or only when it is rendered. -/

namespace Stencil

/-- A tree in which one node stands between others. -/
def Node.between (before after : List Node) (node : Node) : Node :=
  .template .start (before ++ node :: after)

/-- Refusals of trees that differ at most in what they call a component. -/
inductive RefusedAlike : Failure → Failure → Prop
  | same (failure : Failure) : RefusedAlike failure failure
  | called (first second reason : String) (template : Option String) (line : Option Int) :
    RefusedAlike (.diagnostic (.invalidData ⟨first, reason, template, line⟩))
      (.diagnostic (.invalidData ⟨second, reason, template, line⟩))

/-- Failures of renders that differ at most in how a template is reported that is missing. -/
inductive MissedAlike {Loaded : Type} (word path : String) (caller : Option String) (line : Int)
    (loaded : Except Failure Loaded) : Failure → Failure → Prop
  | same (failure : Failure) : MissedAlike word path caller line loaded failure failure
  -- The one report tells where the component was invoked, the other one its name and its address.
  | missing {failure : Failure} (message : String) (absent : loaded = .error failure)
    (told : failure.missing? = some message) :
    MissedAlike word path caller line loaded
      (.diagnostic (.notFound
        (message ++ " (invoked from " ++ location caller (some line) ++ ")")))
      (.diagnostic (.unresolvable ⟨word, path, caller, some line⟩))

section

variable {site : Site} {word : String} {name : Node} {line : Int} {place : Position}

/-- Stylings under two names are the same, and are refused for the same reason. -/
theorem styling_alike (site : Site) (first second : String) (line : Int) (data : Option Node) :
    Alike RefusedAlike Eq (site.styling first line data) (site.styling second line data) := by
  unfold Site.styling
  cases stylingOf data with
  | ok styling => exact .found rfl
  | error fault =>
    -- Only a problem with the data names the component.
    cases fault with
    | problem problem => exact .failed (.called _ _ _ _ _)
    | _ => exact .failed (.same _)

/-- Both kinds of steps that data and a base decide about are accepted or refused alike. -/
theorem styled_alike {first second : String} {data : Option Node} {base : Term}
    {known deferred : Except Failure Procedure}
    (styled : Alike Eq (fun steps _ => Procedure.check steps = base.check) known
      (site.styling first line data))
    (other : Alike Eq (fun steps _ => Procedure.check steps = base.check) deferred
      (site.styling second line data)) :
    Alike RefusedAlike (fun steps others => Procedure.check steps = Procedure.check others)
      known deferred := by
  have stylings := styling_alike site first second line data
  -- The stylings decide about the steps, so the steps are alike as these are.
  generalize site.styling first line data = here at styled stylings
  generalize site.styling second line data = there at other stylings
  -- Both are refused together, or both have a styling and then share the check of the base.
  cases stylings with
  | failed related =>
    cases styled with
    | failed same =>
      cases other with
      | failed equal =>
        subst same equal
        exact .failed related
  | found =>
    cases styled with
    | found checked =>
      cases other with
      | found others => exact .found (checked.trans others.symm)

/-- The steps of a known and of a deferred component are accepted or refused alike. -/
theorem componentSteps_alike (site : Site) (line : Int) (place : Position) (word : String)
    (written : name.IsExpression) (unknown : name.knownName? = none) (variant : Option String)
    (data : Option Node) (only : Bool) :
    Alike RefusedAlike (fun steps others => Procedure.check steps = Procedure.check others)
      (site.componentSteps line (.constant place (.text word)) variant data only)
      (site.componentSteps line name variant data only) := by
  obtain ⟨described, words⟩ := describe_written written
  rw [componentSteps_known site line rfl, componentSteps_deferred site line unknown]
  -- The base is the same for both, and nothing else but the styling can be refused.
  cases site.baseTerm data only with
  | error failure => exact .failed (.same failure)
  | ok base =>
    exact styled_alike (knownSteps_styled site word _ line data base)
      (deferredSteps_styled site written words variant line data base)

/-- Bodies that differ in one node are accepted or refused alike if the node is. -/
theorem bodySteps_alike {node other : Node}
    (alike : Alike RefusedAlike
      (fun steps others => Procedure.check steps = Procedure.check others)
      (site.nodeSteps node) (site.nodeSteps other)) (before after : List Node) :
    Alike RefusedAlike (fun steps others => Procedure.check steps = Procedure.check others)
      (site.bodySteps (before ++ node :: after)) (site.bodySteps (before ++ other :: after)) := by
  -- The nodes in front are the same in both bodies, and come first in both.
  induction before with
  | nil =>
    refine alike.bind fun steps others same => ?_
    -- The nodes behind add the same steps to either.
    cases site.bodySteps after with
    | error failure => exact .failed (.same failure)
    | ok rest => exact .found (by rw [check_append, check_append, same])
  | cons first before ih =>
    simp only [List.cons_append, Site.bodySteps]
    cases site.nodeSteps first with
    | error failure => exact .failed (.same failure)
    | ok steps =>
      refine ih.bind fun rest others same => .found ?_
      rw [check_append, check_append, same]

/-- Trees that differ in one node are accepted or refused alike if the node is. -/
theorem ofTree_alike (maker : Environment) {title file source : Option String} {node other : Node}
    (alike : Alike RefusedAlike
      (fun steps others => Procedure.check steps = Procedure.check others)
      ((maker.site title file).nodeSteps node) ((maker.site title file).nodeSteps other))
    (before after : List Node) :
    Alike RefusedAlike (fun _ _ => True)
      (maker.ofTree (.between before after node) title file source)
      (maker.ofTree (.between before after other) title file source) := by
  -- The bodies come first; a template is refused for them before anything else.
  have bodies := bodySteps_alike alike before after
  simp only [Environment.ofTree, Environment.procedure, Site.procedure, Node.between, Node.body,
    bind_assoc, ok_bind]
  refine bodies.bind fun steps others same => ?_
  -- The opening and the closing are shared, so the checks of the procedures agree too.
  have checks : Procedure.check (Procedure.opening ++ steps ++ Procedure.closing) =
      Procedure.check (Procedure.opening ++ others ++ Procedure.closing) := by
    simp only [check_append, same]
  rw [checks]
  -- What is left is the same for both.
  cases Environment.checked (checkNames title file) with
  | error failure => exact .failed (.same failure)
  | ok _ =>
    cases Environment.checked
        (Procedure.check (Procedure.opening ++ others ++ Procedure.closing)) with
    | error failure => exact .failed (.same failure)
    | ok _ => exact .found trivial

end

section

variable {Loaded : Type} {around : Surroundings Loaded} {site : Site} {frame : Frame}
  {context : Dict} {word : String} {name : Node} {variant : Option String}

/-- A missing template is reported in two ways, and any other failure in one. -/
theorem missed_alike (word path : String) (caller : Option String) (line : Int)
    (failure : Failure) :
    MissedAlike word path caller line (.error failure : Except Failure Loaded)
      (Failure.missedKnown caller line failure)
      (Failure.missedDeferred ⟨word, path, caller, some line⟩ failure) := by
  -- Only a failure that tells that a template is missing is rewritten.
  cases told : failure.missing? with
  | some message =>
    simp only [Failure.missedKnown, Failure.missedDeferred, told, Option.isSome_some, if_true]
    exact .missing message rfl told
  | none =>
    simp only [Failure.missedKnown, Failure.missedDeferred, told, Option.isSome_none,
      Bool.false_eq_true, if_false]
    exact .same failure

/-- A known and a deferred component of one name summon alike. -/
theorem summon_alike (extension : around.extension = site.extension) (line : Int)
    (place : Position) (unknown : name.knownName? = none) :
    Alike (MissedAlike word (componentPath word variant site.extension) site.caller line
        (around.load (componentPath word variant site.extension))) Eq
      (around.summon site line (.constant place (.text word)) variant word)
      (around.summon site line name variant word) := by
  have known : (Node.constant place (.text word)).knownName?.isSome = true := rfl
  have deferred : name.knownName?.isSome = false := by rw [unknown]; rfl
  -- The extension was the same when the path of the known component was made.
  simp only [Surroundings.summon, Surroundings.pathOf, known, deferred, extension, ite_self,
    if_true, Bool.false_eq_true, if_false]
  cases around.load (componentPath word variant site.extension) with
  | ok template => exact .found rfl
  | error failure => exact .failed (missed_alike _ _ _ _ _)

/-- A known and a deferred component of one name come to the same, but for a missing template. -/
theorem component_alike (extension : around.extension = site.extension) (place : Position)
    (unknown : name.knownName? = none)
    (called : name.printed (around.lookup frame context) = .ok word) (data : Option Node)
    (only : Bool) :
    Alike (MissedAlike word (componentPath word variant site.extension) site.caller frame.line
        (around.load (componentPath word variant site.extension))) Eq
      (around.component site frame context (.constant place (.text word)) variant data only)
      (around.component site frame context name variant data only) := by
  -- The constant is printed as the word, as the other name is by assumption.
  have printed : (Node.constant place (.text word)).printed (around.lookup frame context) =
      .ok word := rfl
  simp only [Surroundings.component, called, printed, ok_bind]
  -- From the template on, the two do the same.
  refine (summon_alike extension frame.line place unknown).bind fun template other same => ?_
  subst same
  exact .refl (fun failure => .same failure) (fun text => rfl) _

/-- A component that has a name and no template fails with the report of that. -/
theorem component_unloaded
    (called : name.printed (around.lookup frame context) = .ok word) {failure : Failure}
    (absent : around.load (around.pathOf site name variant word) = .error failure)
    (data : Option Node) (only : Bool) :
    around.component site frame context name variant data only =
      .error (if name.knownName?.isSome then Failure.missedKnown site.caller frame.line failure
        else Failure.missedDeferred
          ⟨word, around.pathOf site name variant word, site.caller, some frame.line⟩ failure) := by
  -- The name comes first and the template second, so the data is not looked at.
  simp only [Surroundings.component, called, ok_bind, Surroundings.summon, absent, mapError_error,
    error_bind]
  split <;> rfl

/-- Nodes have one text in scripts that differ in their trees only. -/
theorem bodyText_same {script second : Script} (sites : script.site = second.site)
    (sources : script.source = second.source) (nodes : List Node) :
    script.bodyText around frame context nodes = second.bodyText around frame context nodes := by
  -- A node reads the site and the source of its script, but not the tree.
  have node (node : Node) : script.nodeText around frame context node =
      second.nodeText around frame context node := by
    cases node <;> simp only [Script.nodeText, Script.located, sites, sources]
  induction nodes with
  | nil => rfl
  | cons first nodes ih => simp only [Script.bodyText, node, ih]

/-- A tree has the text that its body has in the script of another tree. -/
theorem text_scriptOf (maker : Environment) (tree other : Node)
    (title file source : Option String) :
    (maker.scriptOf tree title file source).text around frame context =
      (maker.scriptOf other title file source).bodyText around frame context tree.body := by
  -- What a body renders to does not depend on the tree its script keeps.
  rw [Script.text]
  exact @bodyText_same _ around frame context (maker.scriptOf tree title file source)
    (maker.scriptOf other title file source) rfl rfl tree.body

/-- Bodies that differ in one node come to alike outcomes if the nodes do. -/
theorem bodyText_alike {script : Script} {missed : Failure → Failure → Prop}
    (reflexive : ∀ failure, missed failure failure) {node other : Node}
    (alike : Alike missed Eq (script.nodeText around frame context node)
      (script.nodeText around frame context other)) (before after : List Node) :
    Alike missed Eq (script.bodyText around frame context (before ++ node :: after))
      (script.bodyText around frame context (before ++ other :: after)) := by
  -- What stands in front has one text in both bodies, or fails in both.
  induction before with
  | nil =>
    -- Behind the node the bodies are the same again.
    refine alike.bind fun text words equal => ?_
    rw [equal]
    exact .refl reflexive (fun _ => rfl) _
  | cons first before ih =>
    simp only [List.cons_append, Script.bodyText]
    cases script.nodeText around frame context first with
    | error failure => exact .failed (reflexive failure)
    | ok text =>
      refine ih.bind fun others words equal => ?_
      rw [equal]
      exact .found rfl

end

/-- A report of a missing template leaves a script as it is. -/
theorem MissedAlike.located {Loaded : Type} {word path : String} {caller : Option String}
    {line : Int} {loaded : Except Failure Loaded} {failure other : Failure}
    (alike : MissedAlike word path caller line loaded failure other) (frame : Frame)
    (source : Option String) :
    MissedAlike word path caller line loaded (frame.locate source failure)
      (frame.locate source other) := by
  -- Only mishaps are located, and neither report is one.
  cases alike with
  | same => exact .same _
  | missing message absent told => exact .missing message absent told

/-- Services that report at one path whatever is wanted there. -/
def Services.refusing (services : Services) (path : String) (report : SyntaxFault) : Services :=
  { services with
    load := fun asked =>
      if asked = path then .error (.diagnostic (.malformed report)) else services.load asked }

/-- A template asks for a path if it comes to any report that is made there. -/
def Template.Asks (template : Template) (services : Services) (frame : Frame) (context : Dict)
    (path : String) : Prop :=
  ∀ report, template.run (services.refusing path report) frame context =
    .error (.diagnostic (.malformed report))

section

variable {services : Services} {site : Site} {frame : Frame} {context : Dict} {path : String}
  {report : SyntaxFault}

/-- A component that asks for the path comes to the report, if its name has a text. -/
theorem component_refused {name : Node} {word : String} (variant : Option String)
    (called : name.printed (services.lookup frame context) = .ok word)
    (asked : services.surroundings.pathOf site name variant word = path) (data : Option Node)
    (only : Bool) :
    (services.refusing path report).surroundings.component site frame context name variant data
      only = .error (.diagnostic (.malformed report)) := by
  -- The path that the component asks for is the one where the report is made.
  have absent : (services.refusing path report).surroundings.load
      ((services.refusing path report).surroundings.pathOf site name variant word) =
      .error (.diagnostic (.malformed report)) := if_pos asked
  rw [component_unloaded called absent]
  -- The report is of no missing template, so that it is passed on as it is.
  split <;> rfl

/-- A component comes to the report or to what it comes to without it. -/
theorem component_refusing (site : Site) (frame : Frame) (context : Dict) (name : Node)
    (variant : Option String) (data : Option Node) (only : Bool) :
    (services.refusing path report).surroundings.component site frame context name variant data
        only = .error (.diagnostic (.malformed report)) ∨
      (services.refusing path report).surroundings.component site frame context name variant data
        only = services.surroundings.component site frame context name variant data only := by
  -- A name without a text ends the component before anything is loaded.
  cases called : name.printed (services.lookup frame context) with
  | error failure =>
    have refused : name.printed ((services.refusing path report).surroundings.lookup frame context)
      = .error failure := called
    have plain : name.printed (services.surroundings.lookup frame context) = .error failure :=
      called
    right
    simp only [Surroundings.component, refused, plain, error_bind]
  | ok word =>
    -- Either the component asks for the path, or its template is loaded as before.
    by_cases asked : services.surroundings.pathOf site name variant word = path
    · exact .inl (component_refused variant called asked data only)
    · right
      have loaded : (services.refusing path report).surroundings.load
          (services.surroundings.pathOf site name variant word) =
          services.surroundings.load (services.surroundings.pathOf site name variant word) :=
        if_neg asked
      have refused : name.printed
        ((services.refusing path report).surroundings.lookup frame context) = .ok word := called
      have plain : name.printed (services.surroundings.lookup frame context) = .ok word := called
      have summoned : (services.refusing path report).surroundings.summon site frame.line name
          variant word = services.surroundings.summon site frame.line name variant word := by
        unfold Surroundings.summon
        exact congrArg (Except.mapError _) loaded
      simp only [Surroundings.component, refused, plain, ok_bind, summoned]
      rfl

/-- Nodes that have texts come to the report or to the same texts. -/
theorem bodyText_refusing (script : Script) (nodes : List Node) :
    script.bodyText (services.refusing path report).surroundings frame context nodes =
        .error (.diagnostic (.malformed report)) ∨
      script.bodyText (services.refusing path report).surroundings frame context nodes =
        script.bodyText services.surroundings frame context nodes := by
  -- The induction is on the nodes, each of which comes to the report or to what it was.
  induction nodes with
  | nil => exact .inr rfl
  | cons node nodes ih =>
    have head : script.nodeText (services.refusing path report).surroundings frame context node =
          .error (.diagnostic (.malformed report)) ∨
        script.nodeText (services.refusing path report).surroundings frame context node =
          script.nodeText services.surroundings frame context node := by
      -- Only a component loads anything.
      cases node with
      | component position name variant data only =>
        rcases @component_refusing services path report script.site (frame.atLine position.line)
          context name variant data only with refused | same
        · exact .inl (by rw [Script.nodeText, refused]; rfl)
        · exact .inr (by rw [Script.nodeText, Script.nodeText, same])
      | _ => exact .inr rfl
    rcases head with refused | same
    · exact .inl (by rw [Script.bodyText, refused]; rfl)
    · rcases ih with later | rest
      · -- The report behind a node is reached unless the node itself fails.
        cases first : script.nodeText services.surroundings frame context node with
        | error failure =>
          exact .inr (by rw [Script.bodyText, Script.bodyText, same, first]; rfl)
        | ok text => exact .inl (by rw [Script.bodyText, same, first, later]; rfl)
      · exact .inr (by rw [Script.bodyText, Script.bodyText, same, rest])

/-- Nodes of a body that fail have the whole body fail with them. -/
theorem bodyText_fails {Loaded : Type} {around : Surroundings Loaded} {script : Script}
    {before : List Node} {failure : Failure}
    (failed : script.bodyText around frame context before = .error failure) (after : List Node) :
    script.bodyText around frame context (before ++ after) = .error failure := by
  -- The failing node stands before the end, and ends the body there.
  induction before with
  | nil => cases failed
  | cons node before ih =>
    simp only [List.cons_append, Script.bodyText]
    rcases bind_eq_error.1 failed with first | ⟨text, first, behind⟩
    · rw [first, error_bind]
    · rcases bind_eq_error.1 behind with others | ⟨rest, _, impossible⟩
      · rw [first, ok_bind, ih others, error_bind]
      · cases impossible

/-- A node that fails behind nodes that do not has the whole body fail with it. -/
theorem bodyText_stops {Loaded : Type} {around : Surroundings Loaded} {script : Script}
    {before : List Node} {node : Node} {failure : Failure} {text : String}
    (started : script.bodyText around frame context before = .ok text)
    (failed : script.nodeText around frame context node = .error failure) (after : List Node) :
    script.bodyText around frame context (before ++ node :: after) = .error failure := by
  -- The nodes in front succeed one by one, so the node itself is reached.
  induction before generalizing text with
  | nil => simp only [List.nil_append, Script.bodyText, failed, error_bind]
  | cons first before ih =>
    simp only [Script.bodyText, bind_eq_ok] at started
    obtain ⟨head, headFound, rest, restFound, _⟩ := started
    simp only [List.cons_append, Script.bodyText, headFound, ih restFound, ok_bind, error_bind]

/-- A body comes to the report if it reaches a component that asks for the path. -/
theorem bodyText_refused {script : Script} {before : List Node} {text : String}
    (started : script.bodyText services.surroundings frame context before = .ok text)
    {position : Position} {name : Node} {word : String} (variant : Option String)
    (called : name.printed (services.lookup (frame.atLine position.line) context) = .ok word)
    (asked : services.surroundings.pathOf script.site name variant word = path)
    (data : Option Node) (only : Bool) (after : List Node) :
    script.bodyText (services.refusing path report).surroundings frame context
        (before ++ .component position name variant data only :: after) =
      .error (.diagnostic (.malformed report)) := by
  -- The report may come up earlier, where the same path is asked for.
  rcases @bodyText_refusing services frame context path report script before with refused | same
  · exact bodyText_fails refused _
  · refine bodyText_stops (same.trans started) ?_ after
    rw [Script.nodeText, component_refused variant called asked data only]
    rfl

end

/-- A render carries out its template with components rendered in a way that is the same for all. -/
theorem renderIn_eq_run (environment : Environment) (levels : Nat) :
    ∃ render, ∀ template frame context,
      Template.renderIn environment levels template frame context =
        template.run (environment.services template.strict render) frame context := by
  -- With or without levels left, the procedure is run. Only what it is served to render components
  -- with differs.
  cases levels with
  | zero => exact ⟨_, fun template frame context => by rw [Template.renderIn]⟩
  | succ levels => exact ⟨_, fun template frame context => by rw [Template.renderIn]⟩

/-- A template is as strict as the environment that made it. -/
theorem ofTree_strict {maker : Environment} {tree : Node} {title file source : Option String}
    {template : Template} (made : maker.ofTree tree title file source = .ok template) :
    template.strict = maker.strict := by
  simp only [Environment.ofTree, bind_eq_ok] at made
  -- The strictness is filled in last, from the environment.
  obtain ⟨_, _, same⟩ := made
  cases same
  rfl

/-- A known and a deferred component come to the same, but for a missing template. -/
theorem run_alike {maker : Environment} {services : Services}
    (extension : services.extension = maker.extension) {title file source : Option String}
    {position other place : Position} (line : position.line = other.line) {word : String}
    {name : Node} (unknown : name.knownName? = none) {variant : Option String}
    {data : Option Node} {only : Bool} {before after : List Node} {template second : Template}
    (made : maker.ofTree (.between before after
      (.component position (.constant place (.text word)) variant data only)) title file source =
        .ok template)
    (also : maker.ofTree (.between before after (.component other name variant data only))
      title file source = .ok second) {frame : Frame} {context : Dict}
    (called : name.printed (services.lookup (frame.atLine position.line) context) = .ok word) :
    Alike (MissedAlike word (componentPath word variant maker.extension) (firstName title file)
        position.line (services.load (componentPath word variant maker.extension))) Eq
      (template.run services frame context) (second.run services frame context) := by
  -- Both templates are read as scripts, whose bodies differ in one node.
  rw [maker.ofTree_eq_compile] at made also
  rw [run_compiled made, run_compiled also, text_scriptOf maker _ (.template .start []),
    text_scriptOf maker _ (.template .start [])]
  refine @bodyText_alike _ _ _ _ _ (MissedAlike _ _ _ _ _) (fun failure => .same failure) _ _ ?_
    before after
  -- Both nodes locate what fails at the one line.
  simp only [Script.nodeText, ← line, Script.located]
  have components := @component_alike Template services.surroundings (maker.site title file)
    (frame.atLine position.line) context word name variant extension place unknown called data only
  exact components.mapError fun failure other related => related.located _ _

/-- A template fails with the report of a component that has no template, once it is reached. -/
theorem run_unloaded {maker : Environment} {services : Services}
    {title file source : Option String} {position : Position} {name : Node}
    {variant : Option String} {data : Option Node} {only : Bool} {before after : List Node}
    {template : Template}
    (made : maker.ofTree (.between before after (.component position name variant data only))
      title file source = .ok template) {frame : Frame} {context : Dict} {text : String}
    (started : (maker.scriptOf (.template .start before) title file source).text
      services.surroundings frame context = .ok text) {word path : String}
    (called : name.printed (services.lookup (frame.atLine position.line) context) = .ok word)
    (asked : services.surroundings.pathOf (maker.site title file) name variant word = path)
    {message : String} (absent : services.load path = .error (.diagnostic (.notFound message))) :
    template.run services frame context =
      .error (if name.knownName?.isSome
        then .diagnostic (.notFound (message ++ " (invoked from " ++
          location (firstName title file) (some position.line) ++ ")"))
        else .diagnostic
          (.unresolvable ⟨word, path, firstName title file, some position.line⟩)) := by
  subst asked
  -- The nodes in front succeed, so the component is the first to fail.
  rw [maker.ofTree_eq_compile] at made
  rw [run_compiled made, text_scriptOf maker _ (.template .start before)]
  refine bodyText_stops started ?_ after
  rw [Script.nodeText, component_unloaded called absent]
  split <;> rfl

/-- A template asks for the path of a component that its render reaches. -/
theorem asks_reached {maker : Environment} {services : Services} {title file source : Option String}
    {position : Position} {name : Node} {variant : Option String} {data : Option Node}
    {only : Bool} {before after : List Node} {template : Template}
    (made : maker.ofTree (.between before after (.component position name variant data only))
      title file source = .ok template) {frame : Frame} {context : Dict} {text : String}
    (started : (maker.scriptOf (.template .start before) title file source).text
      services.surroundings frame context = .ok text) {word path : String}
    (called : name.printed (services.lookup (frame.atLine position.line) context) = .ok word)
    (asked : services.surroundings.pathOf (maker.site title file) name variant word = path) :
    template.Asks services frame context path := by
  intro report
  -- The report stops the body at this component at the latest.
  rw [maker.ofTree_eq_compile] at made
  rw [run_compiled made, text_scriptOf maker _ (.template .start before)]
  exact bodyText_refused started variant called asked data only after

/-- A component is accepted, and rendered, as its name is known at once or only in a render. -/
theorem known_deferred_agree (maker environment : Environment)
    (extension : environment.extension = maker.extension) (title file source : Option String)
    {position other : Position} (line : position.line = other.line) (place : Position)
    (word : String) {name : Node} (written : name.IsExpression) (unknown : name.knownName? = none)
    (variant : Option String) (data : Option Node) (only : Bool) (before after : List Node) :
    let path := componentPath word variant maker.extension
    let known := Node.between before after
      (.component position (.constant place (.text word)) variant data only)
    let deferred := Node.between before after (.component other name variant data only)
    -- Both are accepted, or both are refused for one reason.
    Alike RefusedAlike (fun _ _ => True) (maker.ofTree known title file source)
        (maker.ofTree deferred title file source) ∧
    -- As parts of a source under a proper name, both are refused for their data only.
    (checkNames title file = .ok () → (∀ node ∈ before ++ after, node.IsStatement) →
      (∀ node ∈ data, node.IsExpression) → ∀ failure,
      maker.ofTree known title file source = .error failure ∨
          maker.ofTree deferred title file source = .error failure →
        ∃ fault, failure = .diagnostic (.invalidData fault)) ∧
    ∀ template second, maker.ofTree known title file source = .ok template →
      maker.ofTree deferred title file source = .ok second → ∀ frame context,
      name.printed (lookupIn maker.strict (frame.atLine position.line) context) = .ok word →
      -- Both render alike, but for the report of a missing template.
      (∀ levels, Alike (MissedAlike word path (firstName title file) position.line
          (environment.template path)) Eq
        (template.renderIn environment levels frame context)
        (second.renderIn environment levels frame context)) ∧
      -- Once they are reached, both ask for one path, and report it if nothing is there.
      ∀ render text, (maker.scriptOf (.template .start before) title file source).text
          (environment.services maker.strict render).surroundings frame context = .ok text →
        template.Asks (environment.services maker.strict render) frame context path ∧
        second.Asks (environment.services maker.strict render) frame context path ∧
        ∀ message, environment.template path = .error (.diagnostic (.notFound message)) →
          template.run (environment.services maker.strict render) frame context =
            .error (.diagnostic (.notFound (message ++ " (invoked from " ++
              location (firstName title file) (some position.line) ++ ")"))) ∧
          second.run (environment.services maker.strict render) frame context =
            .error (.diagnostic
              (.unresolvable ⟨word, path, firstName title file, some position.line⟩)) := by
  intro path known deferred
  refine ⟨?_, ?_, ?_⟩
  · -- The trees differ in the component, whose steps are accepted or refused alike.
    refine ofTree_alike maker ?_ before after
    simp only [Site.nodeSteps, ← line]
    refine (componentSteps_alike _ _ place word written unknown variant data only).bind ?_
    exact fun steps others same => .found same
  · -- Both trees are written in this case, so that only the data can be to blame.
    intro named others dataWritten failure refused
    -- The component stands among statements and is one itself.
    have body (called : Node) (calledWritten : called.IsExpression) (there : Position) :
        ∀ node ∈ before ++ .component there called variant data only :: after,
          node.IsStatement := by
      intro node member
      simp only [List.mem_append, List.mem_cons] at member others
      rcases member with member | rfl | member
      · exact others node (.inl member)
      · exact ⟨calledWritten, dataWritten⟩
      · exact others node (.inr member)
    rcases refused with refused | refused
    · exact @ofTree_written maker known (body (.constant place (.text word)) trivial position)
        title file source named failure refused
    · exact @ofTree_written maker deferred (body name written other) title file source named
        failure refused
  · -- Both templates have been made.
    intro template second made also frame context called
    refine ⟨fun levels => ?_, fun render text started => ?_⟩
    · -- A render is a run whose components are rendered in some way or other.
      obtain ⟨render, same⟩ := renderIn_eq_run environment levels
      rw [same, same, ofTree_strict made, ofTree_strict also]
      exact @run_alike maker (environment.services maker.strict render) extension title file source
        position other place line word name unknown variant data only before after template second
        made also frame context called
    · -- Once reached, both components ask for the path that is made from the word.
      have asked : (environment.services maker.strict render).surroundings.pathOf
          (maker.site title file) name variant word = path := by
        simp [Surroundings.pathOf, unknown, Services.surroundings, Environment.services,
          extension, path]
      refine ⟨asks_reached made started rfl rfl, asks_reached also started (line ▸ called) asked,
        fun message absent => ⟨run_unloaded made started rfl rfl absent, ?_⟩⟩
      rw [run_unloaded also started (line ▸ called) asked absent, unknown, line]
      rfl

/-- A page with one component under a given name. -/
def navTree (name : Node) : Node :=
  .between [.data .start "<"] []
    (.component ⟨2, 0⟩ name none
      (some (.hash ⟨2, 9⟩ [.constant ⟨2, 10⟩ (.text "classes"), .constant ⟨2, 30⟩ (.text "x")]
        [.list ⟨2, 12⟩ [.constant ⟨2, 13⟩ (.text "a")], .name ⟨2, 32⟩ "user"])) true)

/-- The page has one text, and asks for one path, however its component is named. -/
theorem known_deferred_agree_nav :
    ∃ template second,
      pageEnvironment.ofTree (navTree (.constant ⟨2, 3⟩ (.text "Nav"))) (some "page") none none =
        .ok template ∧
      pageEnvironment.ofTree (navTree (.name ⟨2, 3⟩ "part")) (some "page") none none =
        .ok second ∧
      template.renderIn pageEnvironment 50 (Frame.root (some "page") none none 50) pageContext =
        .ok "<Nav a7" ∧
      second.renderIn pageEnvironment 50 (Frame.root (some "page") none none 50) pageContext =
        .ok "<Nav a7" ∧
      second.Asks (pageEnvironment.services true fun _ _ _ => .ok "")
        (Frame.root (some "page") none none 50) pageContext "Nav/nav.html" := by
  -- Both renders are evaluated on one side only, and the other side follows.
  obtain ⟨_, _, runs⟩ := @known_deferred_agree pageEnvironment pageEnvironment rfl (some "page")
    none none ⟨2, 0⟩ ⟨2, 0⟩ rfl ⟨2, 3⟩ "Nav" (.name ⟨2, 3⟩ "part") trivial rfl none
    (some (.hash ⟨2, 9⟩ [.constant ⟨2, 10⟩ (.text "classes"), .constant ⟨2, 30⟩ (.text "x")]
      [.list ⟨2, 12⟩ [.constant ⟨2, 13⟩ (.text "a")], .name ⟨2, 32⟩ "user"])) true
    [.data .start "<"] []
  obtain ⟨renders, asks⟩ := runs _ _ rfl rfl (Frame.root (some "page") none none 50) pageContext rfl
  exact ⟨_, _, rfl, rfl, by decide +kernel, (renders 50).ok_eq (by decide +kernel),
    (asks (fun _ _ _ => .ok "") "<" rfl).2.1⟩

end Stencil
