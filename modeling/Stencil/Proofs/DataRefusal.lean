import Mathlib
import Stencil.Proofs.CompiledSources
import Stencil.Proofs.ComponentScope

/-! A source is refused for the first component whose data is no use to it; in any other, components
are opened with the classes and modifiers that their data says. -/

namespace Stencil

/-- A script that is loaded was read from a source. -/
theorem script_written {environment : Environment} {path : String} {script : Script}
    (loaded : environment.script path = .ok script) :
    ∀ node ∈ script.tree.body, node.IsStatement := by
  -- The tree of a loaded script was read from a source.
  obtain ⟨_, _, _, _, read, rfl, _⟩ := Environment.script_eq_ok.1 loaded
  exact readTemplate_written read

namespace Activation

section

variable {environment : Environment} {active last : Activation} {callers : Callers}

/-- Whatever is entered was read from a source, if the first script was. -/
theorem Enters.written (entered : active.Enters environment callers last)
    (written : ∀ node ∈ active.script.tree.body, node.IsStatement) :
    ∀ node ∈ last.script.tree.body, node.IsStatement :=
  -- All scripts that are entered were loaded.
  @Enters.holds _ _ _ _ (fun script => ∀ node ∈ script.tree.body, node.IsStatement) entered
    (fun _ _ loaded => script_written loaded) written

/-- A written component is opened in a context of the classes and modifiers that its data says, over
its data and its caller. -/
theorem effect_extracted {position : Position} {called : Node} {variant : Option String}
    {given : Option Node} {only : Bool} (written : ∀ node ∈ given, node.IsExpression)
    {component : Script} {inner : Dict}
    (opened : active.effect environment (.component position called variant given only) =
      .ok (.opens component inner)) :
    let read := lookupIn active.script.strict (active.frame.atLine position.line) active.context
    ∃ word base, called.printed read = .ok word ∧
      active.script.site.mergeBase read active.context given only = .ok base ∧
      inner = componentContext word (extracted word given) base := by
  -- The invocation printed the name, merged the context and found the styling. What it found is
  -- what the data was written with.
  intro read
  obtain ⟨word, base, styling, named, _, merged, styled, same⟩ :=
    invocation_eq_ok.1 (effect_component.1 opened)
  refine ⟨word, base, named, merged, ?_⟩
  rw [← stylingOf_extracted written styled word]
  exact same

/-- An activation that comes to a text has opened each of its components. -/
theorem opened_of_text {words : String} (ended : active.text environment = .ok words)
    {position : Position} {called : Node} {variant : Option String} {given : Option Node}
    {only : Bool}
    (member : .component position called variant given only ∈ active.script.tree.body) :
    ∃ component inner, active.effect environment
      (.component position called variant given only) = .ok (.opens component inner) := by
  obtain ⟨before, after, split⟩ := List.append_of_mem member
  rw [text_eq, split, bodyText_between, nodeText_step] at ended
  simp only [bind_eq_ok, mapError_eq_ok, step] at ended
  -- The text of the component stands between the texts of the others.
  obtain ⟨_, _, _, ⟨_, ⟨_, found, _⟩, _⟩, _⟩ := ended
  obtain ⟨invoked, invocation, _⟩ := map_eq_ok.1 found
  exact ⟨invoked.1, invoked.2, effect_component.2 invocation⟩

end

end Activation

/-- A script with a component that is refused fails to compile, for the first of them. -/
theorem compile_refused {script : Script}
    (written : ∀ node ∈ script.tree.body, node.IsStatement)
    (unfit : ¬ ∀ node ∈ script.tree.body, node.IsFit) :
    ∃ before after position called variant given only described problem,
      script.tree.body = before ++ .component position called variant given only :: after ∧
      (∀ node ∈ before, node.IsFit) ∧ dataProblem? given = some problem ∧
      called.describe = .ok described ∧
      script.compile = .error (.diagnostic (.invalidData
        ⟨described, problem.message, script.site.caller, some position.line⟩)) := by
  have compiled := compile_written written
  rw [← Script.refusal?_eq_none written] at unfit
  obtain ⟨failure, refused⟩ := Option.ne_none_iff_exists'.1 unfit
  rw [refused, Option.elim, map_eq_error] at compiled
  obtain ⟨before, node, after, split, found, earlier⟩ := List.findSome?_eq_some_iff.1 refused
  have fit : ∀ node ∈ before, node.IsFit := fun other member =>
    (Node.refusal?_eq_none (written other (by simp [split, member]))).1 (earlier other member)
  -- Only a component is refused, and only with a problem and a description.
  unfold Node.refusal? at found
  split at found
  · rename_i position called variant given only
    obtain ⟨problem, wrong, found⟩ := Option.bind_eq_some_iff.1 found
    obtain ⟨described, words, same⟩ := Option.bind_eq_some_iff.1 found
    cases same
    refine ⟨before, after, position, called, variant, given, only, described, problem, split, fit,
      wrong, ?_, compiled⟩
    cases outcome : called.describe with
    | ok text =>
      rw [outcome] at words
      exact congrArg _ (Option.some.inj words)
    | error fault =>
      rw [outcome] at words
      cases words
  · cases found

/-- A source that is read is made into a template just if the data of all its components fits, and
it may go by its name at all. If some data does not fit, it is refused for the first component of
such data. Wherever a component of a render is opened, it has the classes and modifiers that its
data says. -/
theorem ofSource_extraction (maker : Environment) {source : String} {name file : Option String}
    {tree : Node} (read : readTemplate name file source = .ok tree) :
    ((∃ template, maker.ofSource source name file = .ok template) ↔
      checkNames name file = .ok () ∧ ∀ node ∈ tree.body, node.IsFit) ∧
    ((¬ ∀ node ∈ tree.body, node.IsFit) →
      ∃ before after position called variant given only described problem,
        tree.body = before ++ .component position called variant given only :: after ∧
        (∀ node ∈ before, node.IsFit) ∧ dataProblem? given = some problem ∧
        called.describe = .ok described ∧
        maker.ofSource source name file = .error (.diagnostic (.invalidData
          ⟨described, problem.message, firstName name file, some position.line⟩))) ∧
    ∀ template, maker.ofSource source name file = .ok template →
      ∀ environment arguments keywords context, checkKeywords keywords = .ok () →
        rootContext environment.globals arguments keywords = .ok context →
        let root := environment.root (maker.scriptOf tree name file (some source)) context
        template.render (some environment) arguments keywords = root.text environment ∧
        ∀ callers last position called variant given only component inner,
          root.Enters environment callers last →
          .component position called variant given only ∈ last.script.tree.body →
          last.effect environment (.component position called variant given only) =
            .ok (.opens component inner) →
          let read := lookupIn last.script.strict (last.frame.atLine position.line) last.context
          ∃ word base, called.printed read = .ok word ∧
            last.script.site.mergeBase read last.context given only = .ok base ∧
            inner = componentContext word (extracted word given) base ∧
            Dict.named? inner "classes" = some (textList (extracted word given).classes) ∧
            Dict.named? inner "modifiers" = some (textList (extracted word given).modifiers) := by
  -- Compiling asks for names the host can use and for nodes that fit. The first node that does not
  -- fit is the one that is reported, and a tag that renders was extracted from data that fits.
  have written := readTemplate_written read
  refine ⟨ofSource_isOk read, fun unfit => ?_, fun template made => ?_⟩
  · have compiled := @compile_refused (maker.scriptOf tree name file (some source)) written unfit
    have same : maker.ofSource source name file =
        (maker.scriptOf tree name file (some source)).compile := by
      rw [Environment.ofSource, read, ok_bind, maker.ofTree_eq_compile]
    rw [same]
    exact compiled
  · intro environment arguments keywords context named rooted root
    obtain ⟨again, found, compiled⟩ := ofSource_eq_ok.1 made
    obtain rfl := Except.ok.inj (read.symm.trans found)
    refine ⟨render_eq_text compiled named rooted, ?_⟩
    intro callers last position called variant given only component inner entered member opened
    obtain ⟨word, base, printed, merged, same⟩ :=
      Activation.effect_extracted (entered.written written _ member).2 opened
    have fields := @componentContext_scope word (extracted word given) base []
      (Dict.valueAt? base) fun key => rfl
    rw [← same] at fields
    exact ⟨word, base, printed, merged, same, fields.classes, fields.modifiers⟩

/-- A source of plain text has no component, and is refused for its name all the same. -/
theorem ofSource_name_refused :
    ∃ tree, readTemplate (some "a\x00b") none "x" = .ok tree ∧ (∀ node ∈ tree.body, node.IsFit) ∧
      Environment.default.ofSource "x" (some "a\x00b") none = .error (.mishap .nulInName) := by
  have read : readTemplate (some "a\x00b") none "x" =
      .ok (.template .start [.data .start "x"]) := by cbv
  have refused : (Environment.default.ofSource "x" (some "a\x00b") none).map (fun _ => ()) =
      .error (.mishap .nulInName) := by
    decide +kernel
  -- Nothing is wrong with the tree, whose only node is data.
  exact ⟨_, read, by simp [Node.body, Node.IsFit], map_eq_error.1 refused⟩

/-- An environment with a component that prints how it is styled. -/
def tabEnvironment : Environment :=
  { Environment.default with
    loader := some (.held [("Tab/tab.html", "\x7b\x7b className \x7d\x7d")]) }

/-- A component whose classes and modifiers stand under keys that are repeated and mixed. -/
def tabSource : String :=
  "\x7b% view kind \x7bclasses: ['a', null, 'Tab'], modifier: true, of: [user], classes: 7, " ++
    "modifiers: ['', 'b'], classes: ''\x7d %\x7d"

/-- The data of the component. -/
def tabData : Node :=
  -- Keys that are repeated, a null among the items, the name of the component as a class.
  .hash ⟨1, 13⟩
    [.constant ⟨1, 14⟩ (.text "classes"), .constant ⟨1, 43⟩ (.text "modifier"),
      .constant ⟨1, 59⟩ (.text "of"), .constant ⟨1, 71⟩ (.text "classes"),
      .constant ⟨1, 83⟩ (.text "modifiers"), .constant ⟨1, 105⟩ (.text "classes")]
    [.list ⟨1, 23⟩
        [.constant ⟨1, 24⟩ (.text "a"), .constant ⟨1, 29⟩ .null, .constant ⟨1, 35⟩ (.text "Tab")],
      .constant ⟨1, 53⟩ (.bool true), .list ⟨1, 63⟩ [.name ⟨1, 64⟩ "user"],
      .constant ⟨1, 80⟩ (.int 7),
      .list ⟨1, 94⟩ [.constant ⟨1, 95⟩ (.text ""), .constant ⟨1, 99⟩ (.text "b")],
      .constant ⟨1, 114⟩ (.text "")]

/-- The component. -/
def tabNode : Node :=
  .component ⟨1, 3⟩ (.name ⟨1, 8⟩ "kind") none (some tabData) false

/-- A second component has a variable among its modifiers, and then another one for its classes. -/
def untabbedSource : String :=
  "\x7b% view 'Tab' \x7bclasses: 'a'\x7d %\x7d\n" ++
    "\x7b% view user.kind \x7bof: user, modifier: ['a', user, kind], classes: user\x7d %\x7d" ++
    "\x7b% view 'Tab' user %\x7d"

/-- What the component is rendered with. -/
def tabContext : Dict :=
  [(.text "kind", .text "Tab"), (.text "user", .text "Ada")]

/-- The styling that the first source gives. -/
def tabStyling : Styling :=
  ⟨["a", "7"], ["Tab--true", "Tab--b"]⟩

/-- The first source is styled in its order; the second one is refused for its first variable. -/
theorem ofSource_extraction_tab :
    (∃ template component inner,
      readTemplate none none tabSource = .ok (.template .start [tabNode]) ∧
      tabEnvironment.ofSource tabSource none none = .ok template ∧
      (tabEnvironment.root (tabEnvironment.scriptOf (.template .start [tabNode]) none none
        (some tabSource)) tabContext).effect tabEnvironment tabNode =
          .ok (.opens component inner) ∧
      Dict.named? inner "classes" = some (textList tabStyling.classes) ∧
      Dict.named? inner "modifiers" = some (textList tabStyling.modifiers)) ∧
    ∃ tree before after position called variant given only,
      readTemplate none none untabbedSource = .ok tree ∧
      tree.body = before ++ .component position called variant given only :: after ∧
      (∀ node ∈ before, node.IsFit) ∧ called.describe = .ok "user.kind" ∧ position.line = 2 ∧
      ∃ problem, dataProblem? given = some problem ∧
        problem.message = "'modifier' list items must be constants, got Name" := by
  constructor
  · have read : readTemplate none none tabSource = .ok (.template .start [tabNode]) := by cbv
    have styled : extracted "Tab" (some tabData) = tabStyling := by decide +kernel
    have rendered : (tabEnvironment.ofSource tabSource none none >>= fun template =>
        template.render (some tabEnvironment) [.dict tabContext] []) =
          .ok "Tab a 7 Tab--true Tab--b" := by
      decide +kernel
    obtain ⟨template, made, rendered⟩ := bind_eq_ok.1 rendered
    obtain ⟨_, _, extraction⟩ := ofSource_extraction tabEnvironment read
    obtain ⟨whole, opens⟩ := extraction template made tabEnvironment [.dict tabContext] []
      tabContext rfl rfl
    have member : tabNode ∈ (Node.template .start [tabNode]).body := List.mem_singleton_self _
    -- The page has a text, so that its component has been opened.
    rw [whole] at rendered
    obtain ⟨component, inner, opened⟩ := Activation.opened_of_text rendered member
    obtain ⟨word, base, printed, _, _, classes, modifiers⟩ :=
      opens _ _ _ _ _ _ _ component inner (.here _) member opened
    cases printed
    rw [styled] at classes modifiers
    exact ⟨template, component, inner, read, made, opened, classes, modifiers⟩
  · have accepted : (readTemplate none none untabbedSource).isOk = true := by
      decide +kernel
    have refused : (tabEnvironment.ofSource untabbedSource none none).map (fun _ => ()) =
        .error (.diagnostic (.invalidData ⟨"user.kind",
          "'modifier' list items must be constants, got Name", none, some 2⟩)) := by
      decide +kernel
    obtain ⟨tree, read⟩ := eq_ok_of_isOk accepted
    obtain ⟨isOk, first, _⟩ := ofSource_extraction tabEnvironment read
    rw [map_eq_error] at refused
    have unfit : ¬ ∀ node ∈ tree.body, node.IsFit := by
      intro fit
      obtain ⟨template, made⟩ := isOk.2 ⟨rfl, fit⟩
      rw [refused] at made
      cases made
    obtain ⟨before, after, position, called, variant, given, only, described, problem, split, fit,
      wrong, words, same⟩ := first unfit
    rw [refused] at same
    simp only [Except.error.injEq, Failure.diagnostic.injEq, Diagnostic.invalidData.injEq,
      InvocationFault.mk.injEq, Option.some.injEq] at same
    exact ⟨tree, before, after, position, called, variant, given, only, read, split, fit,
      same.1 ▸ words, same.2.2.2.symm, problem, wrong, same.2.1.symm⟩

end Stencil
