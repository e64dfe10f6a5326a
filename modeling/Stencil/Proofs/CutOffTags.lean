import Mathlib
import Stencil.Proofs.CompiledSources
import Stencil.Proofs.FailureClasses

/-! An environment that cuts off every component renders as if each of them had the tag for it. -/

namespace Stencil

/-- The templates that a failure was passed on by, with the line where each was left. -/
def Failure.stack : Failure → List (String × Int)
  | .diagnostic (.runtime fault) => fault.stack
  | _ => []

/-- A node of a body with its component cut off by its tag. -/
def Node.cutOff : Node → Node
  | .component position called variant given _ => .component position called variant given true
  | node => node

/-- A tree with all of its components cut off by their tags. -/
def Node.allCutOff : Node → Node
  | .template position body => .template position (body.map Node.cutOff)
  | node => node

/-- A place without its column. -/
def Position.withoutColumn (place : Position) : Position :=
  { place with column := 0 }

/-- A tree is another one with all of its components cut off, but for columns. -/
def CutOffTree (tree twin : Node) : Prop :=
  tree.allCutOff.moved Position.withoutColumn = twin.moved Position.withoutColumn

/-- Two sources are read to trees of which the second is the first with all components cut off. -/
def CutOffSource (name file : Option String) (source twin : String) : Prop :=
  ∃ tree other, readTemplate name file source = .ok tree ∧ readTemplate name file twin = .ok other ∧
    CutOffTree tree other

/-- The environment with another provider and another loader. -/
def Environment.serving (environment : Environment) (provider : Provider)
    (loader : Option Loader) : Environment :=
  { environment with provider := provider, loader := loader }

/-- The site with another provider. -/
def Site.servedBy (site : Site) (provider : Provider) : Site :=
  { site with provider := provider }

/-- Whatever one loader has, the other has under the same name, with all components cut off. -/
def CutOffLoader (loader twin : Option Loader) (environment : Environment) : Prop :=
  ∀ path, Alike Eq
    (fun source other => source.file = other.file ∧
      CutOffSource (some path) source.file source.text other.text)
    ((environment.serving .isolated loader).load path)
    ((environment.serving .standard twin).load path)

/-- Failures that look the same without snippets are at one place, and have one stack. -/
theorem Failure.sameStack_of {failure other : Failure} (same : Blur.snippets.Same failure other) :
    failure.SamePlace other ∧ failure.stack = other.stack := by
  -- Without its snippet a report keeps its stack.
  refine ⟨Failure.samePlace_of same, ?_⟩
  have stack (failure : Failure) :
      (failure.reporting Diagnostic.withoutSnippet).stack = failure.stack := by
    cases failure with
    | mishap accident => rfl
    | diagnostic report => cases report <;> rfl
  have report : failure.reporting Diagnostic.withoutSnippet =
      other.reporting Diagnostic.withoutSnippet := same
  rw [← stack failure, report, stack other]

section

variable {tree twin : Node}

/-- The body of a tree that is cut off has its nodes cut off. -/
theorem Node.allCutOff_body (node : Node) : node.allCutOff.body = node.body.map Node.cutOff := by
  -- Only a template has a body.
  cases node <;> rfl

/-- The nodes of a tree that is another one cut off are those of the other one cut off. -/
theorem CutOffTree.body (cutOff : CutOffTree tree twin) :
    (tree.body.map Node.cutOff).map (Node.moved Position.withoutColumn) =
      twin.body.map (Node.moved Position.withoutColumn) := by
  -- Both changes are made node by node, so they can be made on the body.
  rw [← Node.allCutOff_body, ← Node.moved_body, ← Node.moved_body]
  exact congrArg Node.body cutOff

end

section

variable {caller : Option String}

/-- A component is refused whether or not it is cut off. -/
theorem Node.cutOff_refusal (node : Node) :
    node.cutOff.refusal? caller = node.refusal? caller := by
  -- The flag is no part of what is refused.
  cases node <;> rfl

/-- A component is refused on its line, in whichever column. -/
theorem Node.moved_refusal {move : Position → Position}
    (lines : ∀ place, (move place).line = place.line) (node : Node) :
    (node.moved move).refusal? caller = node.refusal? caller := by
  -- Only a component is refused, and its report tells lines but no columns.
  cases node with
  | component position called variant data only =>
    rw [moved_component]
    simp only [refusal?, dataProblem?_moved, moved_describe, lines]
  | _ => rfl

/-- The first component that is refused is so whether or not it is cut off. -/
theorem CutOffTree.refusal {tree twin : Node} (cutOff : CutOffTree tree twin) :
    tree.body.findSome? (·.refusal? caller) = twin.body.findSome? (·.refusal? caller) := by
  -- The first refused node of a body is found at the same index of the other one, and the two are
  -- refused alike.
  have lines (place : Position) : place.withoutColumn.line = place.line := rfl
  have same := congrArg (List.findSome? (·.refusal? caller)) cutOff.body
  simpa only [List.findSome?_map, Function.comp_def, Node.moved_refusal lines,
    Node.cutOff_refusal] using same

end

/-- A script in which components see nothing of their callers, and one whose tags say so. -/
structure CutOffTwin (script twin : Script) : Prop where
  isolated : script.site.provider = .isolated
  site : twin.site = script.site.servedBy .standard
  strict : script.strict = twin.strict
  tree : CutOffTree script.tree twin.tree

section

variable {Loaded : Type} {around : Surroundings Loaded} {frame : Frame} {context : Dict}

/-- A component is cut off by its site as it would be by its tag. -/
theorem component_cutOff {site : Site} (isolated : site.provider = .isolated)
    (provider : Provider) (name : Node) (variant : Option String) (data : Option Node)
    (only : Bool) :
    around.component (site.servedBy provider) frame context name variant data true =
      around.component site frame context name variant data only := by
  -- The isolated provider cuts every tag off, which is what the flag says for one tag.
  have cut : site.cutsOff only = true := by simp [Site.cutsOff, isolated]
  simp only [Surroundings.component, Surroundings.summon, Surroundings.pathOf, Site.mergeBase,
    Site.styling, Site.caller, cut]
  rfl

/-- A script has the text that its twin has. -/
theorem CutOffTwin.text {script twin : Script} (cutOff : CutOffTwin script twin) :
    twin.text around frame context =
      ({ twin with site := script.site, tree := script.tree } : Script).text around frame
        context := by
  let other : Script := { twin with site := script.site, tree := script.tree }
  have lines (place : Position) : place.withoutColumn.line = place.line := rfl
  have node (node : Node) : twin.nodeText around frame context node.cutOff =
      other.nodeText around frame context node := by
    cases node with
    | component position name variant data only =>
      have same := @component_cutOff _ around (frame.atLine position.line) context _
        cutOff.isolated .standard name variant data only
      simp only [Node.cutOff, Script.nodeText, cutOff.site, same, Script.located, other]
    | _ => rfl
  have body (nodes : List Node) : twin.bodyText around frame context (nodes.map Node.cutOff) =
      other.bodyText around frame context nodes := by
    induction nodes with
    | nil => rfl
    | cons first nodes ih => simp only [List.map_cons, Script.bodyText, node, ih]
  -- Columns aside, the twin has the nodes of the script, with their components cut off.
  calc twin.text around frame context
      = twin.bodyText around frame context
          (twin.tree.body.map (Node.moved Position.withoutColumn)) := (bodyText_moved lines _).symm
    _ = twin.bodyText around frame context (script.tree.body.map Node.cutOff) := by
        rw [← cutOff.tree.body, bodyText_moved lines]
    _ = other.text around frame context := body script.tree.body

/-- A script is made into a template just if its twin is, and they are refused alike. -/
theorem CutOffTwin.compile {script twin : Script} (cutOff : CutOffTwin script twin)
    (written : ∀ node ∈ script.tree.body, node.IsStatement)
    (twinWritten : ∀ node ∈ twin.tree.body, node.IsStatement) :
    Alike Eq (fun _ _ => True) script.compile twin.compile := by
  -- Whether a written script compiles depends on its names and on its first refused node, and both
  -- are the same here.
  have caller : twin.site.caller = script.site.caller := by rw [cutOff.site]; rfl
  have refusal : script.refusal? = twin.refusal? := by
    rw [Script.refusal?, Script.refusal?, caller]
    exact cutOff.tree.refusal
  have names : checkNames twin.site.name twin.site.file =
      checkNames script.site.name script.site.file := by
    rw [cutOff.site]
    rfl
  exact .of_map (by rw [compile_written written, compile_written twinWritten, refusal, names])

end

section

variable {environment : Environment} {loader twin : Option Loader}

/-- Sources that are one cut off make scripts that are, and these are compiled alike. -/
theorem CutOffSource.scripts {name file : Option String} {source other : String}
    (sources : CutOffSource name file source other) (maker : Environment)
    (loader twin : Option Loader) :
    ∃ tree again, readTemplate name file source = .ok tree ∧
      readTemplate name file other = .ok again ∧
      let script := (maker.serving .isolated loader).scriptOf tree name file (some source)
      let copy := (maker.serving .standard twin).scriptOf again name file (some other)
      CutOffTwin script copy ∧ Alike Eq (fun _ _ => True) script.compile copy.compile := by
  -- The two trees belong together, and so do the scripts made of them.
  obtain ⟨tree, again, read, readAgain, cutOff⟩ := sources
  refine ⟨tree, again, read, readAgain, ?_⟩
  intro script copy
  have kin : CutOffTwin script copy := ⟨rfl, rfl, rfl, cutOff⟩
  exact ⟨kin, kin.compile (readTemplate_written read) (readTemplate_written readAgain)⟩

/-- Loaders that have the same sources, cut off or not, make environments that are twins. -/
def Twins.cutOff (loads : CutOffLoader loader twin environment) :
    Twins (environment.serving .isolated loader) (environment.serving .standard twin) where
  Kin := CutOffTwin
  extension := rfl
  -- Sources under one address are read to trees of which one is cut off.
  loads path := by
    refine (loads path).bind fun source other same => ?_
    obtain ⟨file, sources⟩ := same
    rw [← file]
    obtain ⟨tree, again, read, readAgain, kin, compiled⟩ :=
      sources.scripts environment loader twin
    simp only [read, readAgain, ok_bind]
    exact compiled.bind fun _ _ _ => .found kin
  componentName kin := by
    rw [Script.componentName, Script.componentName, kin.site]
    rfl
  strict kin := kin.strict
  text kin around frame context := kin.text

/-- Sources whose components an environment cuts off render as those do whose tags cut them off:
they are refused alike, give the same texts, or fail at the same places. -/
theorem render_cutOff (maker environment : Environment) {loader twin : Option Loader}
    (loads : CutOffLoader loader twin environment) {name file : Option String}
    {source other : String} (sources : CutOffSource name file source other) :
    Alike Eq (fun template copy => ∀ arguments keywords,
        Alike (fun failure fault => failure.SamePlace fault ∧ failure.stack = fault.stack) Eq
          (template.render (some (environment.serving .isolated loader)) arguments keywords)
          (copy.render (some (environment.serving .standard twin)) arguments keywords))
      ((maker.serving .isolated loader).ofSource source name file)
      ((maker.serving .standard twin).ofSource other name file) := by
  obtain ⟨tree, again, read, readAgain, kin, compiled⟩ := sources.scripts maker loader twin
  simp only [Environment.ofSource, Environment.ofTree_eq_compile, read, readAgain, ok_bind]
  refine compiled.results fun template copy made copied arguments keywords => ?_
  rcases render_refused (some (environment.serving .isolated loader)) arguments keywords with
    ⟨accident, refused⟩ | ⟨_, context, ⟨⟩, named, rooted⟩
  · -- What is wrong with the arguments is wrong for both templates, which go by one name.
    rw [refused template _ rfl, refused copy (some (environment.serving .standard twin)) rfl,
      Template.IsOf.name_eq made, Template.IsOf.name_eq copied]
    exact .failed (Failure.sameStack_of rfl)
  · rw [render_eq_text made named rooted, render_eq_text copied named
      (show rootContext (environment.serving .standard twin).globals arguments keywords =
        .ok context from rooted)]
    -- The root frames differ in the sources that they know.
    have near : (Frame.root name file (some source) environment.maxDepth).withoutSource =
        (Frame.root name file (some other) environment.maxDepth).withoutSource := rfl
    exact ((Blur.snippets.simulation (.cutOff loads)).wholeText near kin context).imp
      fun _ _ => Failure.sameStack_of

end

/-- Sources that are read to the same tree, but for tags and columns, are one cut off. -/
theorem CutOffSource.of_read {name file : Option String} {source twin : String}
    (accepted : (readTemplate name file source).isOk = true)
    (same : (readTemplate name file source).map (fun tree =>
        tree.allCutOff.moved Position.withoutColumn) =
      (readTemplate name file twin).map (Node.moved Position.withoutColumn)) :
    CutOffSource name file source twin := by
  -- One reading succeeds, and the equation carries it over to the other one.
  obtain ⟨tree, read⟩ := eq_ok_of_isOk accepted
  rw [read] at same
  obtain ⟨other, again, equal⟩ := map_eq_ok.1 same.symm
  exact ⟨tree, other, read, again, equal.symm⟩

/-- A component that prints its label, and invokes another one under the name of a variable. -/
def shelfSources : List (String × String) :=
  [("Shelf/shelf.html", "\x7b\x7b label \x7d\x7d \x7b% view kind \x7bof: label\x7d %\x7d"),
   ("Book/book.html", "\x7b\x7b of \x7d\x7d")]

/-- The same components, the second of which is cut off by its tag. -/
def shelfTwins : List (String × String) :=
  [("Shelf/shelf.html",
    "\x7b\x7b label \x7d\x7d \x7b% view kind \x7bof:  label\x7d only %\x7d"),
   ("Book/book.html", "\x7b\x7bof\x7d\x7d")]

/-- A page that invokes the first component. -/
def shelfPage : String :=
  "\x7b% view 'Shelf' \x7blabel: title, kind: 'Book'\x7d %\x7d"

/-- The same page, whose component is cut off by its tag. -/
def shelfTwinPage : String :=
  "\x7b% view 'Shelf' \x7b label: title, kind: 'Book' \x7d only %\x7d"

/-- Both pages come to the same text, and fail at the same place without a title. -/
theorem render_cutOff_shelf :
    let isolated := Environment.default.serving .isolated (some (.held shelfSources))
    let standard := Environment.default.serving .standard (some (.held shelfTwins))
    ∃ template copy failure fault, isolated.ofSource shelfPage (some "page") none = .ok template ∧
      standard.ofSource shelfTwinPage (some "page") none = .ok copy ∧
      template.render (some isolated) [] [(.text "title", .text "A")] = .ok "A A" ∧
      copy.render (some standard) [] [(.text "title", .text "A")] = .ok "A A" ∧
      template.render (some isolated) [] [] = .error failure ∧
      failure.family = .undefined ∧ copy.render (some standard) [] [] = .error fault ∧
      failure.SamePlace fault ∧ failure.stack = fault.stack := by
  intro isolated standard
  have loads : CutOffLoader (some (.held shelfSources)) (some (.held shelfTwins))
      Environment.default := by
    intro path
    by_cases shelf : path = "Shelf/shelf.html"
    · subst shelf
      exact .found ⟨rfl, .of_read (by decide +kernel) (by cbv)⟩
    by_cases book : path = "Book/book.html"
    · subst book
      exact .found ⟨rfl, .of_read (by decide +kernel) (by cbv)⟩
    · -- Neither loader has anything else.
      have absent (name : String) (other : path ≠ name) : decide (name = path) = false := by
        simpa using other.symm
      simp only [Environment.load, Environment.serving, Loader.source, Loader.source?, heldSource?,
        shelfSources, shelfTwins, List.find?, absent _ shelf, absent _ book]
      exact .failed rfl
  have sources : CutOffSource (some "page") none shelfPage shelfTwinPage :=
    .of_read (by decide +kernel) (by cbv)
  have rendered : (isolated.ofSource shelfPage (some "page") none >>= fun template =>
      template.render (some isolated) [] [(.text "title", .text "A")]) = .ok "A A" := by
    decide +kernel
  have missed : (isolated.ofSource shelfPage (some "page") none >>= fun template =>
      template.render (some isolated) [] []).mapError Failure.family = .error .undefined := by
    decide +kernel
  obtain ⟨template, made, rendered⟩ := bind_eq_ok.1 rendered
  rw [made, ok_bind, mapError_eq_error] at missed
  obtain ⟨failure, failed, family⟩ := missed
  -- The second page is made, and it follows the first one in both renders.
  obtain ⟨copy, copied, follows⟩ :=
    (render_cutOff Environment.default Environment.default loads sources).result made
  obtain ⟨fault, again, place, stack⟩ := (follows [] []).failure failed
  exact ⟨template, copy, failure, fault, made, copied, rendered, (follows _ _).ok_eq rendered,
    failed, family, again, place, stack⟩

end Stencil
