import Stencil.Component.Context
import Stencil.Component.Styling
import Stencil.Procedure

/-! Template trees are turned into procedures. -/

namespace Stencil

/-- Whether components see the context of their caller. -/
inductive Provider
  | standard
  | isolated
  deriving DecidableEq

/-- What the procedure of a tree depends on besides the tree. -/
structure Site where
  name : Option String
  file : Option String
  extension : String
  provider : Provider

/-- What the template is called where one of its components fails. -/
def Site.caller (site : Site) : Option String :=
  firstName site.name site.file

/-- A node that stands where an expression has to. -/
def Site.notExpression (site : Site) (node : Node) : Failure :=
  .diagnostic (.malformed
    { stage := .general
      code := .invalidExpression
      message := "Cannot compile expression node " ++ node.kindName
      line := some node.line
      column := none
      name := site.name
      file := site.file
      source := none
      suggestion := none })

mutual

/-- The term of an expression. -/
def Site.term (site : Site) : Node → Except Failure Term
  | .constant _ value => .ok (.literal value)
  -- A variable is looked up when the procedure is carried out.
  | .name _ name => .ok (.call (.helper .lookup) [.slot .context, .text name])
  | .member _ object name => do
    let object ← site.term object
    .ok (.call (.helper .member) [object, .text name])
  | .list _ items => do
    let items ← site.terms items
    .ok (.list items)
  | .hash _ keys values => do
    let keys ← site.terms keys
    let values ← site.terms values
    .ok (.dict [] keys values)
  -- None of the others comes from a source; a tree that is built by hand may hold them.
  | .data position text => .error (site.notExpression (.data position text))
  | .output position value => .error (site.notExpression (.output position value))
  | .component position name variant data only =>
    .error (site.notExpression (.component position name variant data only))
  | .template position body => .error (site.notExpression (.template position body))

/-- The terms of expressions. -/
def Site.terms (site : Site) : List Node → Except Failure (List Term)
  | [] => .ok []
  | node :: nodes => do
    let term ← site.term node
    let terms ← site.terms nodes
    .ok (term :: terms)

end

/-- Whether a component is cut off from the context of its caller. -/
def Site.cutsOff (site : Site) (only : Bool) : Bool :=
  -- An environment may cut off every component, whatever its tag says.
  only || site.provider = .isolated

/-- The term of the data that a component is invoked with. -/
def Site.dataTerms (site : Site) : Option Node → Except Failure (List Term)
  | none => .ok []
  | some data => (site.term data).map ([·])

/-- The context that the fields of a component are laid over. -/
def Site.baseTerm (site : Site) (data : Option Node) (only : Bool) : Except Failure Term := do
  let data ← site.dataTerms data
  -- What is spread later wins, so the data overrides the context of the caller.
  .ok (.dict ((if site.cutsOff only then [] else [.slot .context]) ++ data) [] [])

/-- The styling of a component. -/
def Site.styling (site : Site) (component : String) (line : Int) (data : Option Node) :
    Except Failure Styling :=
  -- The styling is known before any render, as it is made of constants.
  match stylingOf data with
  | .ok styling => .ok styling
  | .error fault => .error ((fault.failure component).invoked site.caller line)

/-- A computed field as a term. -/
def fieldTerm : Value → Term
  | .list items => .list (items.map .literal)
  | value => .literal value

/-- The step that renders a loaded component in its context. -/
def renderStep (template context : Term) : Statement :=
  .append (.call (.helper .renderComponent) [template, context])

/-- The terms that say where a component is invoked. -/
def Site.place (site : Site) (line : Int) : List Term :=
  [.textOrNull site.caller, .literal (.int line)]

/-- The steps of a component whose template is known. -/
def Site.knownSteps (site : Site) (name path : String) (line : Int) (data : Option Node)
    (base : Term) : Except Failure Procedure := do
  let styling ← site.styling name line data
  -- Fields are laid over everything else under their names.
  let fields := componentFields name (styling.named name)
  .ok [renderStep (.call (.helper .loadTemplate) (.text path :: site.place line))
    (.dict [base] (fields.map (.text ·.1)) (fields.map (fieldTerm ·.2)))]

/-- The steps of a component whose name is an expression. -/
def Site.deferredSteps (site : Site) (name : Node) (variant : Option String) (line : Int)
    (data : Option Node) (base : Term) : Except Failure Procedure := do
  -- The name is only described here, for what might be wrong with the data.
  let described ← (ofFault name.describe).mapError (Failure.invoked site.caller line)
  let styling ← site.styling described line data
  let nameTerm ← site.term name
  -- The name is evaluated once and used for the template and for the fields.
  .ok [.assign .componentName (.call (.slot .textOf) [nameTerm]),
    renderStep
      (.call (.helper .loadComponent)
        (.slot .componentName :: .textOrNull variant :: site.place line))
      (.call (.helper .buildContext)
        [.slot .componentName, .tuple (styling.classes.map .text),
         .tuple (styling.modifiers.map .text), base])]

/-- The steps of a component. -/
def Site.componentSteps (site : Site) (line : Int) (name : Node) (variant : Option String)
    (data : Option Node) (only : Bool) : Except Failure Procedure := do
  let base ← site.baseTerm data only
  match chooseTemplate name variant site.extension with
  | .known name path => site.knownSteps name path line data base
  | .deferred name variant => site.deferredSteps name variant line data base

/-- The steps of one node of a body; what can fail when it is rendered marks its line first. -/
def Site.nodeSteps (site : Site) : Node → Except Failure Procedure
  -- Text cannot fail, so it marks no line.
  | .data _ text => .ok (if text.isEmpty then [] else [.append (.text text)])
  | .output position value => do
    let term ← site.term value
    .ok [.markLine position.line, .append (.call (.slot .textOf) [term])]
  | .component position name variant data only => do
    let steps ← site.componentSteps position.line name variant data only
    .ok (.markLine position.line :: steps)
  -- An expression in a body has no steps.
  | _ => .ok []

/-- The steps of a body. -/
def Site.bodySteps (site : Site) : List Node → Except Failure Procedure
  | [] => .ok []
  | node :: nodes => do
    let first ← site.nodeSteps node
    let others ← site.bodySteps nodes
    .ok (first ++ others)

/-- The procedure of a template. -/
def Site.procedure (site : Site) (tree : Node) : Except Failure Procedure := do
  let steps ← site.bodySteps tree.body
  .ok (Procedure.opening ++ steps ++ Procedure.closing)

end Stencil
