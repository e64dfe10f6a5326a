import Stencil.Proofs.ProcedureMeaning

/-! Rendering a template interprets its tree, and the trees of its components in turn. -/

namespace Stencil

/-- Two surroundings are alike if they answer alike, whatever they take templates to be. -/
structure Surroundings.AnswerAlike {Loaded Other : Type} (related : Loaded → Other → Prop)
    (first : Surroundings Loaded) (second : Surroundings Other) : Prop where
  lookup : first.lookup = second.lookup
  extension : first.extension = second.extension
  -- What is loaded may be of another kind, as long as it is related.
  load : ∀ path, Alike Eq related (first.load path) (second.load path)
  render : ∀ frame loaded other context, related loaded other →
    first.render frame loaded context = second.render frame other context

section

variable {Loaded Other : Type} {related : Loaded → Other → Prop}

variable {first : Surroundings Loaded} {second : Surroundings Other}

/-- Alike surroundings summon alike templates for a component. -/
theorem Surroundings.AnswerAlike.summon (alike : Surroundings.AnswerAlike related first second)
    (site : Site) (line : Int) (name : Node) (variant : Option String) (word : String) :
    Alike Eq related (first.summon site line name variant word)
      (second.summon site line name variant word) := by
  -- The path depends on the surroundings only by their extension.
  have path : first.pathOf site name variant word = second.pathOf site name variant word := by
    simp only [Surroundings.pathOf, alike.extension]
  simp only [Surroundings.summon, path]
  -- A failure to load is reported in the same way on both sides.
  exact (alike.load _).mapError fun fault other same => by rw [same]

/-- Alike surroundings give a component one text. -/
theorem Surroundings.AnswerAlike.component (alike : Surroundings.AnswerAlike related first second)
    (site : Site) (frame : Frame) (context : Dict) (name : Node) (variant : Option String)
    (data : Option Node) (only : Bool) :
    first.component site frame context name variant data only =
      second.component site frame context name variant data only := by
  -- The two differ only in what is loaded and then rendered.
  simp only [Surroundings.component, alike.lookup]
  congr 1
  funext word
  refine ((alike.summon site frame.line name variant word).bind fun loaded other same => ?_).eq
  simp only [alike.render _ loaded other _ same]
  exact .refl (fun _ => rfl) (fun _ => rfl) _

/-- Alike surroundings give a node of a body one text. -/
theorem Surroundings.AnswerAlike.nodeText (alike : Surroundings.AnswerAlike related first second)
    (script : Script) (frame : Frame) (context : Dict) (node : Node) :
    script.nodeText first frame context node = script.nodeText second frame context node := by
  -- Only an output and a component ask the surroundings for anything.
  cases node with
  | component position name variant data only =>
    simp only [Script.nodeText, alike.component]
  | output position expression => simp only [Script.nodeText, alike.lookup]
  | _ => rfl

/-- Alike surroundings give a script one text. -/
theorem Surroundings.AnswerAlike.text (alike : Surroundings.AnswerAlike related first second)
    (script : Script) (frame : Frame) (context : Dict) :
    script.text first frame context = script.text second frame context := by
  -- The induction is on the nodes of the body.
  have body (nodes : List Node) : script.bodyText first frame context nodes =
      script.bodyText second frame context nodes := by
    induction nodes with
    | nil => rfl
    | cons node nodes ih => simp only [Script.bodyText, alike.nodeText, ih]
  exact body script.tree.body

end

/-- A template is made of a tree as it is compiled from the script of the tree. -/
theorem Environment.ofTree_eq_compile (environment : Environment) (tree : Node)
    (name file source : Option String) :
    environment.ofTree tree name file source =
      (environment.scriptOf tree name file source).compile := by
  -- Both build the procedure of the tree and check it. The script only holds in one place what the
  -- environment passes along.
  simp only [Environment.ofTree, Environment.procedure, Script.compile, Environment.scriptOf,
    bind_assoc, ok_bind]
  rfl

/-- A template is that of a script if the script is compiled to it. -/
def Template.IsOf (template : Template) (script : Script) : Prop :=
  script.compile = .ok template

/-- An environment loads a template and its script alike. -/
theorem Environment.template_script (environment : Environment) (path : String) :
    Alike Eq Template.IsOf (environment.template path) (environment.script path) := by
  simp only [Environment.template, Environment.script, Environment.ofSource,
    Environment.ofTree_eq_compile]
  -- There is nothing to tell apart until the tree has been read.
  cases environment.load path with
  | error failure => exact .failed rfl
  | ok source =>
    simp only [ok_bind]
    cases readTemplate (some path) source.file source.text with
    | error failure => exact .failed rfl
    | ok tree =>
      simp only [ok_bind]
      -- A script is only given if it can be compiled, so both fail together.
      cases compiled : (environment.scriptOf tree (some path) source.file
        (some source.text)).compile with
      | error failure => exact .failed rfl
      | ok template => exact .found compiled

/-- A template goes by the name of its script, and keeps its source and its strictness. -/
theorem Template.IsOf.same {template : Template} {script : Script} (made : template.IsOf script) :
    template.componentName = script.componentName ∧ template.source = script.source ∧
      template.strict = script.strict := by
  simp only [Template.IsOf, Script.compile, bind_eq_ok] at made
  -- The procedure aside, a template is filled in from its script.
  obtain ⟨_, _, _, _, _, _, same⟩ := made
  cases same
  exact ⟨rfl, rfl, rfl⟩

/-- Procedures and trees have alike surroundings if components render alike. -/
theorem services_alike (environment : Environment) (strict : Bool)
    {render : Frame → Template → Dict → Except Failure String}
    {interpret : Frame → Script → Dict → Except Failure String}
    (same : ∀ frame template script context, template.IsOf script →
      render frame template context = interpret frame script context) :
    Surroundings.AnswerAlike Template.IsOf (environment.services strict render).surroundings
      (environment.around strict interpret) where
  -- Of the services only the load asks for a proof: it compiles the script it finds.
  lookup := rfl
  extension := rfl
  load := environment.template_script
  render := same

/-- A template renders as the script that it was made of is interpreted. -/
theorem Template.IsOf.renderIn_eq (environment : Environment) (levels : Nat) {template : Template}
    {script : Script} (made : template.IsOf script) (frame : Frame) (context : Dict) :
    template.renderIn environment levels frame context =
      script.textIn environment levels frame context := by
  -- The induction is on the levels of components that are left.
  induction levels generalizing script template frame context with
  | zero =>
    rw [Template.renderIn, run_compiled made, Script.textIn, made.same.2.2]
    refine (services_alike environment script.strict ?_).text script frame context
    -- On the last level every component is refused, under the same name.
    intro frame component inner context made
    rw [made.same.1]
  | succ levels ih =>
    rw [Template.renderIn, run_compiled made, Script.textIn, made.same.2.2]
    refine (services_alike environment script.strict ?_).text script frame context
    -- Otherwise both check the depth and go one level down.
    intro frame component inner context made
    rw [made.same.1, made.same.2.1]
    congr 1
    funext _
    exact ih made _ _

/-- Carrying out the procedures of a tree and of its components interprets the trees. -/
theorem renderIn_ofTree (maker environment : Environment) {tree : Node}
    {name file source : Option String} {template : Template}
    (made : maker.ofTree tree name file source = .ok template) (levels : Nat) (frame : Frame)
    (context : Dict) :
    template.renderIn environment levels frame context =
      (maker.scriptOf tree name file source).textIn environment levels frame context := by
  -- The environment that makes the template need not be the one that renders it.
  rw [maker.ofTree_eq_compile] at made
  exact Template.IsOf.renderIn_eq environment levels made frame context

/-- A page with a component whose name, and part of its data, are variables. -/
def pageTree : Node :=
  .template .start
    [.data .start "<",
     .output ⟨1, 1⟩ (.member ⟨1, 4⟩ (.name ⟨1, 4⟩ "user") "id"),
     .component ⟨2, 0⟩ (.name ⟨2, 5⟩ "part") none
       (some (.hash ⟨2, 9⟩
         [.constant ⟨2, 10⟩ (.text "classes"), .constant ⟨2, 20⟩ (.text "x"),
          .constant ⟨2, 30⟩ (.text "x")]
         [.list ⟨2, 12⟩ [.constant ⟨2, 13⟩ (.text "a"), .constant ⟨2, 14⟩ .null],
          .constant ⟨2, 22⟩ (.int 1), .name ⟨2, 32⟩ "user"])) true]

/-- An environment that holds the component of the page. -/
def pageEnvironment : Environment :=
  { Environment.default with
    loader := some (.held [("Nav/nav.html", "\x7b\x7b className \x7d\x7d\x7b\x7b x.id \x7d\x7d")]) }

/-- The variables of the page. -/
def pageContext : Dict :=
  [(.text "user", .dict [(.text "id", .int 7)]), (.text "part", .text "Nav")]

/-- The page renders as its tree is interpreted, and neither fails. -/
theorem renderIn_ofTree_page :
    ∃ template, pageEnvironment.ofTree pageTree (some "page") none none = .ok template ∧
      template.renderIn pageEnvironment 50 (Frame.root (some "page") none none 50) pageContext =
        (pageEnvironment.scriptOf pageTree (some "page") none none).textIn pageEnvironment 50
          (Frame.root (some "page") none none 50) pageContext ∧
      (pageEnvironment.scriptOf pageTree (some "page") none none).textIn pageEnvironment 50
        (Frame.root (some "page") none none 50) pageContext = .ok "<7Nav a7" :=
  -- The meaning of the page is evaluated. The run of its procedure gives the same.
  ⟨_, rfl, renderIn_ofTree pageEnvironment pageEnvironment rfl 50 _ pageContext,
    by decide +kernel⟩

end Stencil
