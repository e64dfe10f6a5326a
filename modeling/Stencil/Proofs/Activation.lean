import Stencil.Proofs.Levels

/-! A render enters one script inside the other, up to the first step that fails. -/

namespace Stencil

/-- A script that is being rendered, in its frame and its context. -/
structure Activation where
  script : Script
  frame : Frame
  context : Dict

/-- What a node comes to by itself: its text, or a component that is still to be rendered. -/
inductive Effect
  | text (words : String)
  | opens (component : Script) (context : Dict)

/-- Scripts that invoke one another, outermost first, each with the line of its component. -/
abbrev Callers := List (Script × Int)

/-- The frame of the first of the scripts that are invoked on a line of another frame. -/
def Callers.frameIn (frame : Frame) (line : Int) : Callers → Frame
  -- Without a script there is no other frame to be in.
  | [] => frame
  | (script, _) :: _ => (frame.atLine line).child script.componentName script.source

/-- A failure as it leaves scripts that invoke one another, the first of them in a frame: each one,
from the innermost out, locates on its line what is not yet a diagnostic. -/
def Failure.leave (own : Failure) : Frame → Callers → Failure
  | _, [] => own
  | frame, (script, line) :: inner =>
    (frame.atLine line).locate script.source (own.leave (Callers.frameIn frame line inner) inner)

namespace Activation

/-- The activation of a component that stands on a line. -/
def inside (active : Activation) (line : Int) (component : Script) (inner : Dict) : Activation where
  script := component
  frame := (active.frame.atLine line).child component.componentName component.source
  context := inner

section

variable (environment : Environment)

/-- The text that an activation comes to. -/
def text (active : Activation) : Except Failure String :=
  active.script.wholeText environment active.frame active.context

/-- What a node of an activation comes to before any component is let in. -/
def effect (active : Activation) : Node → Except Failure Effect
  | .data _ words => .ok (.text words)
  | .output position expression =>
    (expression.printed
      (lookupIn active.script.strict (active.frame.atLine position.line) active.context)).map .text
  -- A component is opened but not yet rendered, which is where the depth is checked.
  | .component position name variant data only =>
    ((environment.components active.script.strict).invocation active.script.site
      (active.frame.atLine position.line) active.context name variant data only).map
        fun invoked => .opens invoked.1 invoked.2
  | _ => .ok (.text "")

/-- What a node of an activation does by itself: a component is let in, but not yet rendered. -/
def step (active : Activation) (node : Node) : Except Failure Effect := do
  match ← active.effect environment node with
  | .text words => .ok (.text words)
  | .opens component inner =>
    (active.frame.atLine node.line).checkDepth component.componentName
    .ok (.opens component inner)

/-- The text of a node whose step is done. -/
def finish (active : Activation) (line : Int) : Effect → Except Failure String
  | .text words => .ok words
  | .opens component inner => (active.inside line component inner).text environment

/-- An activation reaches a node of its body if everything in front of it has a text. -/
def Reaches (active : Activation) (node : Node) : Prop :=
  ∃ before after text, active.script.tree.body = before ++ node :: after ∧
    active.script.bodyText (environment.components active.script.strict) active.frame
      active.context before = .ok text

/-- An activation enters another one through components that it reaches, each inside the last. -/
inductive Enters : Activation → Callers → Activation → Prop
  | here (active : Activation) : Enters active [] active
  -- Each caller is listed with the line it stands at while the component renders.
  | through {active last : Activation} {node : Node} {component : Script} {inner : Dict}
    {callers : Callers} (reached : active.Reaches environment node)
    (opened : active.step environment node = .ok (.opens component inner))
    (deeper : Enters (active.inside node.line component inner) callers last) :
    Enters active ((active.script, node.line) :: callers) last

end

end Activation

section

variable {Loaded : Type} {around : Surroundings Loaded} {script : Script} {frame : Frame}
  {context : Dict}

/-- A body fails with the first of its nodes that does. -/
theorem bodyText_eq_error {nodes : List Node} {failure : Failure} :
    script.bodyText around frame context nodes = .error failure ↔
      ∃ before node after text, nodes = before ++ node :: after ∧
        script.bodyText around frame context before = .ok text ∧
        script.nodeText around frame context node = .error failure := by
  constructor
  · -- The nodes that succeed are moved to the front one by one.
    intro failed
    induction nodes with
    | nil => cases failed
    | cons node nodes ih =>
      rcases bind_eq_error.1 failed with first | ⟨text, first, behind⟩
      · exact ⟨[], node, nodes, "", rfl, rfl, first⟩
      · rcases bind_eq_error.1 behind with others | ⟨rest, _, impossible⟩
        · obtain ⟨before, last, after, more, rfl, started, ended⟩ := ih others
          exact ⟨node :: before, last, after, text ++ more, rfl,
            by simp only [Script.bodyText, first, started, ok_bind], ended⟩
        · cases impossible
  · rintro ⟨before, node, after, text, rfl, started, failed⟩
    exact bodyText_stops started failed after

/-- A diagnostic leaves scripts as it is. -/
theorem leave_diagnostic (report : Diagnostic) (frame : Frame) (callers : Callers) :
    Failure.leave (.diagnostic report) frame callers = .diagnostic report := by
  -- The induction is on the scripts, none of which changes a diagnostic.
  induction callers generalizing frame with
  | nil => rfl
  | cons caller inner ih =>
    rw [Failure.leave, ih]
    rfl

end

namespace Activation

section

variable {environment : Environment} {active last : Activation} {node : Node} {failure : Failure}
  {callers : Callers}

/-- A component is opened as it is invoked. -/
theorem effect_component {position : Position} {name : Node} {variant : Option String}
    {data : Option Node} {only : Bool} {component : Script} {inner : Dict} :
    active.effect environment (.component position name variant data only) =
        .ok (.opens component inner) ↔
      (environment.components active.script.strict).invocation active.script.site
        (active.frame.atLine position.line) active.context name variant data only =
          .ok (component, inner) := by
  -- A component tag has an effect just if its invocation finds a script and a context.
  simp only [effect, map_eq_ok]
  constructor
  · rintro ⟨⟨loaded, base⟩, found, same⟩
    cases same
    exact found
  · intro found
    exact ⟨_, found, rfl⟩

/-- Only a component opens one. -/
theorem effect_opens {component : Script} {inner : Dict}
    (opened : active.effect environment node = .ok (.opens component inner)) :
    ∃ position name variant data only, node = .component position name variant data only ∧
      (environment.components active.script.strict).invocation active.script.site
        (active.frame.atLine position.line) active.context name variant data only =
          .ok (component, inner) := by
  -- Of the statements only a component tag opens anything.
  cases node with
  | component position name variant data only =>
    exact ⟨position, name, variant, data, only, rfl, effect_component.1 opened⟩
  | output position expression =>
    obtain ⟨words, _, same⟩ := map_eq_ok.1 opened
    cases same
  | _ => cases opened

/-- A component that is opened was loaded from a path. -/
theorem effect_loaded {component : Script} {inner : Dict}
    (opened : active.effect environment node = .ok (.opens component inner)) :
    ∃ path, path ≠ "" ∧ environment.script path = .ok component := by
  -- What an invocation opens was loaded under the address it asked for.
  obtain ⟨position, name, variant, data, only, _, invoked⟩ := effect_opens opened
  exact invocation_loaded invoked

/-- A step opens a component if the node comes to it, and if there is a level left for it. -/
theorem step_opens {component : Script} {inner : Dict} :
    active.step environment node = .ok (.opens component inner) ↔
      active.effect environment node = .ok (.opens component inner) ∧ 0 < active.frame.levels := by
  simp only [step, bind_eq_ok]
  constructor
  · rintro ⟨effect, found, opened⟩
    cases effect with
    | text words => cases opened
    | opens other context =>
      obtain ⟨⟨⟩, allowed, same⟩ := bind_eq_ok.1 opened
      cases same
      -- The line that is reached has no part in the levels.
      have left := Frame.checkDepth_eq_ok.1 allowed
      exact ⟨found, left⟩
  · rintro ⟨found, left⟩
    refine ⟨_, found, ?_⟩
    simp only [Frame.checkDepth_eq_ok.2 (show 0 < (active.frame.atLine node.line).levels from left),
      ok_bind]

/-- A step fails for its effect, or because the component of the effect would be too deep. -/
theorem step_eq_error :
    active.step environment node = .error failure ↔
      active.effect environment node = .error failure ∨
      ∃ component inner, active.effect environment node = .ok (.opens component inner) ∧
        active.frame.levels = 0 ∧
        failure = (active.frame.atLine node.line).tooDeep component.componentName := by
  -- A step fails in the effect of its node, or it opens a component where no level is left.
  simp only [step, bind_eq_error]
  constructor
  · rintro (failed | ⟨effect, found, refused⟩)
    · exact .inl failed
    · cases effect with
      | text words => cases refused
      | opens component inner =>
        rcases bind_eq_error.1 refused with deep | ⟨_, _, impossible⟩
        · exact .inr ⟨component, inner, found, Frame.checkDepth_eq_error.1 deep⟩
        · cases impossible
  · rintro (failed | ⟨component, inner, found, none, same⟩)
    · exact .inl failed
    · refine .inr ⟨_, found, bind_eq_error.2 (.inl (Frame.checkDepth_eq_error.2 ⟨none, same⟩))⟩

/-- An activation has the text of its body, with its components rendered. -/
theorem text_eq :
    active.text environment =
      active.script.bodyText (environment.components active.script.strict) active.frame
        active.context active.script.tree.body :=
  -- The procedure of the script writes what its body means.
  wholeText_eq environment active.script active.frame active.context

/-- A node has its text once its step is done, and what fails is located on its line. -/
theorem nodeText_step :
    active.script.nodeText (environment.components active.script.strict) active.frame
        active.context node =
      (active.step environment node >>= active.finish environment node.line).mapError
        ((active.frame.atLine node.line).locate active.script.source) := by
  cases node with
  | output position expression =>
    simp only [Script.nodeText, Script.located, step, effect, Environment.components,
      Environment.around]
    -- The text of an output is all that it comes to.
    cases expression.printed (lookupIn active.script.strict (active.frame.atLine position.line)
      active.context) <;> rfl
  | component position name variant data only =>
    simp only [Script.nodeText, Script.located, Surroundings.component_invocation, step, effect]
    -- What is invoked is checked and then rendered one level down.
    cases (environment.components active.script.strict).invocation active.script.site
        (active.frame.atLine position.line) active.context name variant data only with
    | error failure => rfl
    | ok invoked =>
      simp only [map_ok, ok_bind, bind_assoc]
      rfl
  | _ => rfl

/-- A node fails where its step does, or with what comes out of the component that it opens; its
script locates either. -/
theorem nodeText_eq_error :
    active.script.nodeText (environment.components active.script.strict) active.frame
        active.context node = .error failure ↔
      ∃ other, failure = (active.frame.atLine node.line).locate active.script.source other ∧
        (active.step environment node = .error other ∨
          ∃ component inner, active.step environment node = .ok (.opens component inner) ∧
            (active.inside node.line component inner).text environment = .error other) := by
  rw [nodeText_step, mapError_eq_error]
  -- What is located is what the step and its component come to.
  refine exists_congr fun other => ?_
  rw [and_comm, eq_comm]
  refine and_congr_right fun _ => ?_
  cases stepped : active.step environment node with
  | error own => simp
  | ok effect =>
    cases effect with
    | text words => simp [finish]
    | opens component inner => simp [finish]

/-- The scripts that are entered start with the first one, whichever of them is the last. -/
theorem Enters.frameIn (entered : active.Enters environment callers last) (frame : Frame)
    (line inmost : Int) :
    Callers.frameIn frame line (callers ++ [(last.script, inmost)]) =
      (frame.atLine line).child active.script.componentName active.script.source := by
  -- Either nothing is entered, and the first script is the last, or it is the first caller.
  cases entered <;> rfl

/-- A failure of the last script is located there first, and then leaves its callers. -/
theorem Enters.leave (entered : active.Enters environment callers last) (own : Failure)
    (line : Int) :
    own.leave active.frame (callers ++ [(last.script, line)]) =
      ((last.frame.atLine line).locate last.script.source own).leave active.frame callers := by
  induction entered with
  | here active => rfl
  | @through active last node component inner callers reached opened deeper ih =>
    -- The callers below the first one are in the frame of the component that it opens.
    have frame := deeper.frameIn active.frame node.line line
    have first : (active.inside node.line component inner).frame =
        (active.frame.atLine node.line).child component.componentName component.source := rfl
    simp only [inside] at frame
    simp only [List.cons_append, Failure.leave, frame, ← first, ih]
    cases deeper <;> rfl

/-- A render fails with the first step that does, in the innermost script that was entered, and with
what is left of that behind all its callers. -/
theorem text_eq_error :
    active.text environment = .error failure ↔
      ∃ callers last node own, active.Enters environment callers last ∧
        last.Reaches environment node ∧ last.step environment node = .error own ∧
        failure = own.leave active.frame (callers ++ [(last.script, node.line)]) := by
  constructor
  · -- The induction is on the levels that are left, one of which is used up by each component.
    intro failed
    generalize count : active.frame.levels = levels
    induction levels using Nat.strongRecOn generalizing active failure with
    | _ levels ih =>
      rw [text_eq] at failed
      obtain ⟨before, node, after, text, split, started, failed⟩ := bodyText_eq_error.1 failed
      have reached : active.Reaches environment node := ⟨before, after, text, split, started⟩
      obtain ⟨other, rfl, stopped | ⟨component, inner, opened, failed⟩⟩ :=
        nodeText_eq_error.1 failed
      · exact ⟨[], active, node, other, .here active, reached, stopped, rfl⟩
      · -- The component fails itself, and has a level less.
        have left := (step_opens.1 opened).2
        have fewer : (active.inside node.line component inner).frame.levels < levels := by
          simp only [inside, Frame.levels_child, Frame.levels_atLine]
          omega
        obtain ⟨callers, last, inmost, own, entered, within, stopped, rfl⟩ := ih _ fewer failed rfl
        refine ⟨_, last, inmost, own, .through reached opened entered, within, stopped, ?_⟩
        rw [List.cons_append, Failure.leave, entered.frameIn]
        rfl
  · -- Each script on the way fails as the one that it enters.
    rintro ⟨callers, last, node, own, entered, reached, stopped, same⟩
    induction entered generalizing failure with
    | here active =>
      obtain ⟨before, after, text, split, started⟩ := reached
      rw [text_eq]
      exact bodyText_eq_error.2 ⟨before, node, after, text, split, started,
        nodeText_eq_error.2 ⟨own, same, .inl stopped⟩⟩
    | @through active last outer component inner callers passed opened deeper ih =>
      obtain ⟨before, after, text, split, started⟩ := passed
      rw [List.cons_append, Failure.leave, deeper.frameIn] at same
      rw [text_eq]
      exact bodyText_eq_error.2 ⟨before, outer, after, text, split, started,
        nodeText_eq_error.2 ⟨_, same, .inr ⟨component, inner, opened, ih reached stopped rfl⟩⟩⟩

/-- A diagnostic that a step fails with is what the render of all scripts around it fails with. -/
theorem text_reported {report : Diagnostic} (entered : active.Enters environment callers last)
    (reached : last.Reaches environment node)
    (stopped : last.step environment node = .error (.diagnostic report)) :
    active.text environment = .error (.diagnostic report) :=
  -- A diagnostic leaves every caller as it is.
  text_eq_error.2 ⟨callers, last, node, .diagnostic report, entered, reached, stopped,
    (leave_diagnostic report _ _).symm⟩

/-- Whatever is entered from callers was entered by the last of them, on a line that it reaches. -/
theorem Enters.parent {caller : Script × Int}
    (entered : active.Enters environment (callers ++ [caller]) last) :
    ∃ parent node, active.Enters environment callers parent ∧ parent.Reaches environment node ∧
      caller = (parent.script, node.line) := by
  -- The induction is on the callers in front of the last one, each of which is entered first.
  induction callers generalizing active with
  | nil =>
    cases entered with
    | @through _ _ node _ _ _ reached opened deeper => exact ⟨active, node, .here _, reached, rfl⟩
  | cons outer callers ih =>
    cases entered with
    | through reached opened deeper =>
      obtain ⟨parent, node, below, within, same⟩ := ih deeper
      exact ⟨parent, node, .through reached opened below, within, same⟩

/-- What is so of the first script, and of all that can be loaded, is so of any that is entered. -/
theorem Enters.holds {good : Script → Prop} (entered : active.Enters environment callers last)
    (loads : ∀ path script, environment.script path = .ok script → good script)
    (first : good active.script) : good last.script := by
  -- Induction along the entered components: each was loaded, so what holds of every loaded script
  -- holds of it.
  induction entered with
  | here active => exact first
  | through reached opened _ ih =>
    obtain ⟨path, _, loaded⟩ := effect_loaded (step_opens.1 opened).1
    exact ih (loads path _ loaded)

/-- What is entered is as deep as it has callers, and no deeper than is allowed. -/
theorem Enters.depth (entered : active.Enters environment callers last) :
    last.frame.depth = active.frame.depth + callers.length ∧
      last.frame.maxDepth = active.frame.maxDepth ∧ callers.length ≤ active.frame.levels := by
  induction entered with
  | here active => simp
  | @through active last node component inner callers _ opened _ ih =>
    -- A component is one deeper than its caller, and is let in only while levels are left.
    obtain ⟨deep, limit, within⟩ := ih
    have left := (step_opens.1 opened).2
    simp only [inside, Frame.levels_child, Frame.levels_atLine] at within
    refine ⟨?_, limit, ?_⟩
    · rw [deep]
      simp only [inside, Frame.child, Frame.atLine, List.length_cons]
      omega
    · simp only [List.length_cons]
      omega

end

end Activation

/-- A template that was made of a tree is that of the script of the tree. -/
theorem ofTree_isOf {maker : Environment} {tree : Node} {title file source : Option String}
    {template : Template} (made : maker.ofTree tree title file source = .ok template) :
    template.IsOf (maker.scriptOf tree title file source) := by
  -- Compiling a tree is compiling the script that names and places it.
  rw [maker.ofTree_eq_compile] at made
  exact made

/-- A template is made of a source by reading its tree, and compiling the script of the tree. -/
theorem ofSource_eq_ok {maker : Environment} {source : String} {name file : Option String}
    {template : Template} :
    maker.ofSource source name file = .ok template ↔
      ∃ tree, readTemplate name file source = .ok tree ∧
        template.IsOf (maker.scriptOf tree name file (some source)) := by
  -- Reading comes first, then the script of the tree is compiled.
  simp only [Environment.ofSource, bind_eq_ok, maker.ofTree_eq_compile]
  rfl

/-- A script is loaded if there is a source, which is read and compiled under its path. -/
theorem Environment.script_eq_ok {environment : Environment} {path : String} {script : Script} :
    environment.script path = .ok script ↔ ∃ source tree template,
      environment.load path = .ok source ∧
      readTemplate (some path) source.file source.text = .ok tree ∧
      script = environment.scriptOf tree (some path) source.file (some source.text) ∧
      Template.IsOf template script := by
  -- The three stages in their order: load the source, read it, compile it. The template that is
  -- compiled is checked and then dropped, a render asks for the script.
  simp only [Environment.script, bind_eq_ok, Except.ok.injEq, Template.IsOf]
  constructor
  · rintro ⟨source, load, tree, read, template, compiled, rfl⟩
    exact ⟨source, tree, template, load, read, rfl, compiled⟩
  · rintro ⟨source, tree, template, load, read, rfl, compiled⟩
    exact ⟨source, load, tree, read, template, compiled, rfl⟩

/-- A template starts to be rendered in the root frame of its script. -/
theorem Template.IsOf.rootFrame_eq {template : Template} {script : Script}
    (made : template.IsOf script) (environment : Environment) :
    template.rootFrame environment =
      Frame.root script.site.name script.site.file script.source environment.maxDepth := by
  -- Compiling copies the names and the source of the script into the template.
  simp only [Template.IsOf, Script.compile, bind_eq_ok] at made
  obtain ⟨_, _, _, _, _, _, same⟩ := made
  cases same
  rfl

/-- The activation that a render of a script starts with. -/
def Environment.root (environment : Environment) (script : Script) (context : Dict) :
    Activation where
  script := script
  frame := Frame.root script.site.name script.site.file script.source environment.maxDepth
  context := context

/-- A render with proper arguments gives the text of the activation that it starts with. -/
theorem render_eq_text {environment : Environment} {template : Template} {script : Script}
    (made : template.IsOf script) {arguments : List Value} {keywords context : Dict}
    (named : checkKeywords keywords = .ok ())
    (rooted : rootContext environment.globals arguments keywords = .ok context) :
    template.render (some environment) arguments keywords =
      (environment.root script context).text environment := by
  -- A root frame has as many levels left as the environment allows.
  have levels : (environment.root script context).frame.levels = environment.maxDepth.toNat :=
    Frame.levels_root _ _ _ _
  simp only [Template.render, named, Environment.checked, ok_bind, rooted, made.renderIn_eq,
    made.rootFrame_eq, Activation.text, Script.wholeText, levels]
  rfl

/-- A render is refused for its arguments or for a lack of an environment, which may show the name
of the template but nothing else of it, nor anything of the environment but its globals; or it
starts in a root context. -/
theorem render_refused (environment : Option Environment) (arguments : List Value)
    (keywords : Dict) :
    (∃ accident : Option String → Mishap, ∀ (template : Template) (other : Option Environment),
      other.map Environment.globals = environment.map Environment.globals →
        template.render other arguments keywords = .error (.mishap (accident template.name))) ∨
    ∃ given context, environment = some given ∧ checkKeywords keywords = .ok () ∧
      rootContext given.globals arguments keywords = .ok context := by
  -- The refusals before the first step: names that are no identifiers, a missing environment,
  -- arguments that are no mappings. None of them asks for more than the globals.
  cases named : checkKeywords keywords with
  | error accident => exact .inl ⟨fun _ => accident, fun template other _ => by
      simp [Template.render, named, Environment.checked]⟩
  | ok _ =>
    cases environment with
    | none =>
      refine .inl ⟨.environmentGone, fun template other same => ?_⟩
      obtain rfl := Option.map_eq_none_iff.1 same
      simp [Template.render, named, Environment.checked]
    | some given =>
      cases rooted : rootContext given.globals arguments keywords with
      | error accident =>
        refine .inl ⟨fun _ => accident, fun template other same => ?_⟩
        obtain ⟨second, rfl, globals⟩ := Option.map_eq_some_iff.1 same
        simp [Template.render, named, Environment.checked, globals, rooted]
      | ok context => exact .inr ⟨given, context, rfl, rfl, rooted⟩

/-- A template goes by the name of its script. -/
theorem Template.IsOf.name_eq {template : Template} {script : Script}
    (made : template.IsOf script) : template.name = script.site.name := by
  -- The template is named like its script.
  simp only [Template.IsOf, Script.compile, bind_eq_ok] at made
  obtain ⟨_, _, _, _, _, _, same⟩ := made
  cases same
  rfl

end Stencil
