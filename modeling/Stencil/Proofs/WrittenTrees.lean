import Stencil.Proofs.Extraction
import Stencil.Proofs.RenderMeaning

/-! Trees as they are written in sources have procedures, unless the data of a component is to
blame. -/

namespace Stencil

/-- Steps one after another can be carried out if both parts can. -/
theorem check_append (steps others : Procedure) :
    Procedure.check (steps ++ others) =
      Procedure.check steps >>= fun _ => Procedure.check others := by
  -- The checks run in the order of the steps.
  induction steps with
  | nil => rfl
  | cons step steps ih =>
    simp only [List.cons_append, Procedure.check, ih]
    rw [bind_assoc]

/-- Texts can be written into a procedure. -/
theorem checkAll_texts (texts : List String) : checkAll (texts.map .text) = .ok () :=
  -- A text is a constant of the host as it stands.
  checkAll_ok fun term member => by
    obtain ⟨text, _, rfl⟩ := List.mem_map.1 member
    rfl

/-- The fields of a component can be written into a procedure. -/
theorem checkAll_fields (name : String) (styling : Styling) :
    checkAll ((componentFields name styling).map fun field => fieldTerm field.2) = .ok () := by
  -- Classes and modifiers are lists of texts; everything else is one text.
  have literals (texts : List String) : (fieldTerm (textList texts)).check = .ok () := by
    have each : checkAll (texts.map fun text => .literal (.text text)) = .ok () :=
      checkAll_texts texts
    simpa [textList, fieldTerm, Term.check, Function.comp_def] using each
  have text (words : String) : (fieldTerm (.text words)).check = .ok () := rfl
  simp [componentFields, checkAll, literals, text]

/-- What says where a component is invoked can be written into a procedure. -/
theorem checkAll_place (site : Site) (line : Int) : checkAll (site.place line) = .ok () := by
  unfold Site.place
  -- The caller is a text or null, and the line is an integer.
  cases site.caller <;> rfl

/-- A known component has steps if its data has a styling, and its base decides about them. -/
theorem knownSteps_styled (site : Site) (word path : String) (line : Int) (data : Option Node)
    (base : Term) :
    Alike Eq (fun steps _ => Procedure.check steps = base.check)
      (site.knownSteps word path line data base) (site.styling word line data) := by
  unfold Site.knownSteps
  cases site.styling word line data with
  | error failure => exact .failed rfl
  | ok styling =>
    refine .found ?_
    -- All that stands around the base are texts.
    have keys := checkAll_texts ((componentFields word (styling.named word)).map (·.1))
    have values := checkAll_fields word (styling.named word)
    simp only [List.map_map, Function.comp_def] at keys
    simp only [renderStep, Statement.append, Procedure.check, Statement.check, Term.check,
      checkAll, checkAll_place, List.length_map, if_true, keys, values, ok_bind]
    cases base.check <;> rfl

/-- A deferred component has steps if its data has a styling, and its base decides about them. -/
theorem deferredSteps_styled (site : Site) {name : Node} (written : name.IsExpression)
    {described : String} (words : name.describe = .ok described) (variant : Option String)
    (line : Int) (data : Option Node) (base : Term) :
    Alike Eq (fun steps _ => Procedure.check steps = base.check)
      (site.deferredSteps name variant line data base) (site.styling described line data) := by
  obtain ⟨term, found, checked⟩ := term_written site written
  simp only [Site.deferredSteps, words, ofFault, mapError_ok, found, ok_bind]
  cases site.styling described line data with
  | error failure => exact .failed rfl
  | ok styling =>
    refine .found ?_
    -- The base aside, the two steps are made of texts and the checked name.
    have variantChecked : (Term.textOrNull variant).check = .ok () := by cases variant <;> rfl
    simp only [renderStep, Statement.append, Procedure.check, Statement.check, Term.check,
      checkAll, variantChecked, checked, checkAll_place, checkAll_texts, ok_bind]
    cases base.check <;> rfl

/-- The context of a written component can be put together. -/
theorem baseTerm_written (site : Site) {data : Option Node}
    (written : ∀ node ∈ data, node.IsExpression) (only : Bool) :
    ∃ base, site.baseTerm data only = .ok base ∧ base.check = .ok () := by
  -- The caller's context is a slot, so only the data has a term to check.
  cases data with
  | none =>
    refine ⟨_, rfl, ?_⟩
    cases site.cutsOff only <;> rfl
  | some node =>
    obtain ⟨term, found, checked⟩ := term_written site (written node rfl)
    refine ⟨.dict ((if site.cutsOff only then [] else [.slot .context]) ++ [term]) [] [], ?_, ?_⟩
    · simp only [Site.baseTerm, Site.dataTerms, found, map_ok, ok_bind]
    · cases site.cutsOff only <;> simp [Term.check, checkAll, checked]

/-- The failure of a component whose data says nothing of its styling; other nodes have none. -/
def Node.refusal? (caller : Option String) : Node → Option Failure
  | .component position called _ given _ => do
    let problem ← dataProblem? given
    let described ← called.describe.toOption
    some (.diagnostic (.invalidData ⟨described, problem.message, caller, some position.line⟩))
  | _ => none

/-- The data of a component fits its styling; other nodes have no such data. -/
def Node.IsFit : Node → Prop
  | .component _ _ _ given _ => FitsStyling given
  | _ => True

/-- A written node is refused just if its data does not fit. -/
theorem Node.refusal?_eq_none {caller : Option String} {node : Node}
    (written : node.IsStatement) : node.refusal? caller = none ↔ node.IsFit := by
  -- The name of a written component can be described, so only its data can be refused.
  cases node with
  | component position name variant data only =>
    obtain ⟨described, words⟩ := describe_written written.1
    simp only [refusal?, words, IsFit, ← dataProblem?_eq_none]
    cases dataProblem? data <;> simp [Except.toOption]
  | _ => simp [refusal?, IsFit]

/-- Steps can be carried out, unless they are refused. -/
def CarriedUnless (refusal : Option Failure) : Except Failure Procedure → Prop
  | .ok steps => refusal = none ∧ Procedure.check steps = .ok ()
  | .error failure => refusal = some failure

/-- Steps that written data and a base decide about are refused just if the data is. -/
theorem carriedUnless_styled {site : Site} {word : String} {line : Int} {data : Option Node}
    (written : ∀ node ∈ data, node.IsExpression) {base : Term} (checked : base.check = .ok ())
    {outcome : Except Failure Procedure}
    (styled : Alike Eq (fun steps _ => Procedure.check steps = base.check) outcome
      (site.styling word line data)) :
    CarriedUnless ((dataProblem? data).map fun problem =>
      .diagnostic (.invalidData ⟨word, problem.message, site.caller, some line⟩)) outcome := by
  simp only [Site.styling, stylingOf_written written] at styled
  -- The base has been checked, so only the styling can be missing.
  cases problem : dataProblem? data with
  | none =>
    simp only [problem, unlessProblem, Option.elim] at styled
    cases styled with
    | found same => exact ⟨rfl, same.trans checked⟩
  | some cause =>
    simp only [problem, unlessProblem, Option.elim] at styled
    cases styled with
    | failed same =>
      subst same
      rfl

/-- The steps of a component whose name is a constant text. -/
theorem componentSteps_known (site : Site) (line : Int) {name : Node} {word : String}
    (known : name.knownName? = some word) (variant : Option String) (data : Option Node)
    (only : Bool) :
    site.componentSteps line name variant data only = site.baseTerm data only >>=
      site.knownSteps word (componentPath word variant site.extension) line data := by
  -- The address is chosen when the template is compiled.
  simp only [Site.componentSteps, chooseTemplate_known known]

/-- The steps of a component whose name is any other expression. -/
theorem componentSteps_deferred (site : Site) (line : Int) {name : Node}
    (unknown : name.knownName? = none) (variant : Option String) (data : Option Node)
    (only : Bool) :
    site.componentSteps line name variant data only = site.baseTerm data only >>=
      site.deferredSteps name variant line data := by
  -- The address is chosen by the render.
  simp only [Site.componentSteps, chooseTemplate_deferred unknown]

/-- A constant text is described as itself. -/
theorem describe_known {name : Node} {word : String} (known : name.knownName? = some word) :
    name.describe = .ok word := by
  -- A known name is a constant, which describes itself.
  unfold Node.knownName? at known
  split at known
  · cases known
    rfl
  · cases known

/-- The steps of a written component are refused just if its data is. -/
theorem componentSteps_written (site : Site) (position : Position) {name : Node}
    (nameWritten : name.IsExpression) (variant : Option String) {data : Option Node}
    (written : ∀ node ∈ data, node.IsExpression) (only : Bool) :
    CarriedUnless ((Node.component position name variant data only).refusal? site.caller)
      (site.componentSteps position.line name variant data only) := by
  obtain ⟨base, found, checked⟩ := baseTerm_written site written only
  -- Both kinds of steps come down to the styling, under the name that is known or described.
  have named {described : String} (words : name.describe = .ok described) :
      (Node.component position name variant data only).refusal? site.caller =
        (dataProblem? data).map fun problem => .diagnostic
          (.invalidData ⟨described, problem.message, site.caller, some position.line⟩) := by
    simp only [Node.refusal?, words]
    cases dataProblem? data <;> rfl
  cases known : name.knownName? with
  | some word =>
    rw [componentSteps_known site position.line known, found, named (describe_known known)]
    exact carriedUnless_styled written checked
      (knownSteps_styled site word _ position.line data base)
  | none =>
    obtain ⟨described, words⟩ := describe_written nameWritten
    rw [componentSteps_deferred site position.line known, found, named words]
    exact carriedUnless_styled written checked
      (deferredSteps_styled site nameWritten words variant position.line data base)

/-- The steps of a written node are refused just if the data of a component is. -/
theorem nodeSteps_written (site : Site) {node : Node} (written : node.IsStatement) :
    CarriedUnless (node.refusal? site.caller) (site.nodeSteps node) := by
  cases node with
  | data position text =>
    -- Text is a literal, whether it is printed or left out.
    by_cases empty : text.isEmpty <;>
      simp [Site.nodeSteps, empty, CarriedUnless, Node.refusal?] <;> rfl
  | output position expression =>
    obtain ⟨term, found, checked⟩ := term_written site written
    simp [Site.nodeSteps, found, CarriedUnless, Node.refusal?, Procedure.check, Statement.check,
      Term.check, checkAll, checked, Statement.append]
  | component position name variant data only =>
    -- The mark of the line is all that a component adds to its own steps.
    have steps := componentSteps_written site position written.1 variant written.2 only
    simp only [Site.nodeSteps]
    cases outcome : site.componentSteps position.line name variant data only with
    | error failure => simpa [outcome] using steps
    | ok inner => simpa [outcome, CarriedUnless, Procedure.check, Statement.check] using steps
  | _ => exact written.elim

/-- The steps of written nodes are refused for the first component whose data is. -/
theorem bodySteps_written (site : Site) {nodes : List Node}
    (written : ∀ node ∈ nodes, node.IsStatement) :
    CarriedUnless (nodes.findSome? (·.refusal? site.caller)) (site.bodySteps nodes) := by
  -- The first node without steps ends the compilation, and its failure is kept.
  induction nodes with
  | nil => exact ⟨rfl, rfl⟩
  | cons node nodes ih =>
    have head := nodeSteps_written site (written node (by simp))
    have tail := ih fun other member => written other (by simp [member])
    simp only [Site.bodySteps, List.findSome?_cons]
    cases first : site.nodeSteps node with
    | error failure =>
      rw [first] at head
      simp only [CarriedUnless] at head
      simp [head, CarriedUnless]
    | ok steps =>
      rw [first] at head
      simp only [CarriedUnless] at head
      cases others : site.bodySteps nodes with
      | error failure => simpa [others, head.1] using tail
      | ok rest =>
        rw [others] at tail
        simp only [CarriedUnless] at tail
        simp [CarriedUnless, check_append, head, tail]

/-- The failure of the first component of a script whose data says nothing of its styling. -/
def Script.refusal? (script : Script) : Option Failure :=
  script.tree.body.findSome? (·.refusal? script.site.caller)

/-- A written script is made into a template, unless the data of a component or a name is to blame;
the data comes first. -/
theorem compile_written {script : Script} (written : ∀ node ∈ script.tree.body, node.IsStatement) :
    script.compile.map (fun _ => ()) = script.refusal?.elim
      (Environment.checked (checkNames script.site.name script.site.file)) .error := by
  have steps := bodySteps_written script.site written
  unfold Script.refusal?
  cases found : script.site.bodySteps script.tree.body with
  | error failure =>
    rw [found] at steps
    simp only [CarriedUnless] at steps
    simp [Script.compile, Site.procedure, found, steps]
  | ok inner =>
    rw [found] at steps
    simp only [CarriedUnless] at steps
    -- The opening and the closing of a procedure can always be carried out.
    have opening : Procedure.check Procedure.opening = .ok () := rfl
    have closing : Procedure.check Procedure.closing = .ok () := rfl
    simp only [Script.compile, Site.procedure, found, ok_bind, check_append, opening, closing,
      steps, Environment.checked, Option.elim]
    cases checkNames script.site.name script.site.file <;> rfl

/-- A written script is refused just if the data of a component does not fit. -/
theorem Script.refusal?_eq_none {script : Script}
    (written : ∀ node ∈ script.tree.body, node.IsStatement) :
    script.refusal? = none ↔ ∀ node ∈ script.tree.body, node.IsFit := by
  -- No node is refused just if every node fits.
  rw [refusal?, List.findSome?_eq_none_iff]
  exact forall₂_congr fun node member => Node.refusal?_eq_none (written node member)

/-- A written script is made into a template just if it may go by its names, and all of its nodes
are fit. -/
theorem isOf_written {script : Script} (written : ∀ node ∈ script.tree.body, node.IsStatement) :
    (∃ template, Template.IsOf template script) ↔
      checkNames script.site.name script.site.file = .ok () ∧
        ∀ node ∈ script.tree.body, node.IsFit := by
  have compiled := compile_written written
  rw [← Script.refusal?_eq_none written]
  unfold Template.IsOf
  -- What comes of the compilation is what the refusal and the names say.
  cases made : script.compile with
  | ok template =>
    cases found : script.refusal? with
    | some failure => simp [made, found] at compiled
    | none =>
      cases names : checkNames script.site.name script.site.file with
      | ok _ => simp
      | error mishap => simp [made, found, names, Environment.checked] at compiled
  | error failure =>
    cases found : script.refusal? with
    | some other => simp
    | none =>
      cases names : checkNames script.site.name script.site.file with
      | ok _ => simp [made, found, names, Environment.checked] at compiled
      | error mishap => simp

/-- A component is refused for its data. -/
theorem Node.refusal?_invalid {node : Node} {caller : Option String} {failure : Failure}
    (refused : node.refusal? caller = some failure) :
    ∃ fault, failure = .diagnostic (.invalidData fault) := by
  -- Only a component is refused, and for its data.
  unfold refusal? at refused
  split at refused
  · obtain ⟨_, _, refused⟩ := Option.bind_eq_some_iff.1 refused
    obtain ⟨_, _, same⟩ := Option.bind_eq_some_iff.1 refused
    cases same
    exact ⟨_, rfl⟩
  · cases refused

/-- A script is refused for the data of one of its components. -/
theorem Script.refusal?_invalid {script : Script} {failure : Failure}
    (refused : script.refusal? = some failure) :
    ∃ fault, failure = .diagnostic (.invalidData fault) := by
  -- The refusal is that of one of the nodes.
  obtain ⟨node, _, found⟩ := List.exists_of_findSome?_eq_some refused
  exact node.refusal?_invalid found

/-- A written tree with a proper name is made into a template, or its data is to blame. -/
theorem ofTree_written (environment : Environment) {tree : Node}
    (written : ∀ node ∈ tree.body, node.IsStatement) {title file source : Option String}
    (named : checkNames title file = .ok ()) {failure : Failure}
    (refused : environment.ofTree tree title file source = .error failure) :
    ∃ fault, failure = .diagnostic (.invalidData fault) := by
  let script := environment.scriptOf tree title file source
  have compiled := @compile_written script written
  have names : checkNames script.site.name script.site.file = .ok () := named
  rw [← environment.ofTree_eq_compile, refused, names] at compiled
  -- The name is proper, so that the script can only be refused.
  cases found : script.refusal? with
  | none => simp [found, Environment.checked] at compiled
  | some other =>
    simp only [found, map_error, Option.elim, Except.error.injEq] at compiled
    exact compiled ▸ Script.refusal?_invalid found

end Stencil
