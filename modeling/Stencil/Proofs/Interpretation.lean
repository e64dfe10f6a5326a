import Stencil.Render

/-! Template trees are interpreted directly, with no procedure in between. -/

namespace Stencil

/-- What comes of parts in order, unless one of them fails. -/
def collect {Meaning : Type} : List (Except Failure Meaning) → Except Failure (List Meaning)
  | [] => .ok []
  | outcome :: outcomes => do
    let first ← outcome
    let others ← collect outcomes
    .ok (first :: others)

/-- The entries of a dictionary in order, each key before its value. -/
def collectEntries (early : Nat) : List (Except Failure Value) → List (Except Failure Value) →
    Except Failure (List (Value × Value))
  | key :: keys, value :: values => do
    let key ← key
    let value ← value
    -- Only the first keys are checked before the pairs behind them are evaluated.
    checkEarly early key
    let entries ← collectEntries (early - 1) keys values
    .ok ((key, value) :: entries)
  | _, _ => .ok []

mutual

/-- The value of an expression whose variables are read one by one. -/
def Node.value (read : String → Except Failure Value) : Node → Except Failure Value
  | .constant _ value => .ok value
  | .name _ word => read word
  | .member _ object word => do
    -- The object comes first, so that what is wrong with it is reported before the member.
    let value ← object.value read
    ofFault (value.member word)
  | .list _ items => do
    let values ← collect (Node.values read items)
    .ok (.list values)
  | .hash _ keys values => do
    let entries ← collectEntries (storedEarly keys.length) (Node.values read keys)
      (Node.values read values)
    -- Keys are stored last, where the last of two equal keys wins.
    let entries ← storeEntries [] entries
    .ok (.dict entries)
  | _ => .error unusable

/-- The values of expressions. -/
def Node.values (read : String → Except Failure Value) : List Node → List (Except Failure Value)
  | [] => []
  | node :: nodes => node.value read :: Node.values read nodes

end

/-- The text that an expression is printed as. -/
def Node.printed (read : String → Except Failure Value) (node : Node) : Except Failure String := do
  let value ← node.value read
  ofFault value.output

/-- The text that names a component, if the name is a constant text. -/
def Node.knownName? : Node → Option String
  | .constant _ (.text text) => some text
  | _ => none

/-- What the interpretation of a tree asks of its surroundings. -/
structure Surroundings (Loaded : Type) where
  lookup : Frame → Dict → String → Except Failure Value
  load : String → Except Failure Loaded
  extension : String
  render : Frame → Loaded → Dict → Except Failure String

/-- The entries that the data of a component adds. -/
def dataEntries (read : String → Except Failure Value) : Option Node → Except Failure Dict
  | none => .ok []
  | some data => do
    let value ← data.value read
    (Datum.value value).asDict

/-- The data of a component over a copy of the caller's context, unless that is cut off. -/
def Site.mergeBase (site : Site) (read : String → Except Failure Value) (context : Dict)
    (data : Option Node) (only : Bool) : Except Failure Dict := do
  let entries ← dataEntries read data
  .ok (Dict.merge (if site.cutsOff only then [] else Dict.ofEntries context) entries)

section

variable {Loaded : Type} (around : Surroundings Loaded)

/-- The path of a component; a constant name was given its path when the template was made. -/
def Surroundings.pathOf (site : Site) (name : Node) (variant : Option String) (word : String) :
    String :=
  componentPath word variant
    (if name.knownName?.isSome then site.extension else around.extension)

/-- The template of a component, or a report of where it is missed. -/
def Surroundings.summon (site : Site) (line : Int) (name : Node) (variant : Option String)
    (word : String) : Except Failure Loaded :=
  let path := around.pathOf site name variant word
  (around.load path).mapError
    (if name.knownName?.isSome then Failure.missedKnown site.caller line
      else Failure.missedDeferred ⟨word, path, site.caller, some line⟩)

/-- The text of a component: its name, its template, its data, and then its render. -/
def Surroundings.component (site : Site) (frame : Frame) (context : Dict) (name : Node)
    (variant : Option String) (data : Option Node) (only : Bool) : Except Failure String := do
  -- Everything that may fail stands in the order in which it is evaluated.
  let word ← name.printed (around.lookup frame context)
  let template ← around.summon site frame.line name variant word
  let base ← site.mergeBase (around.lookup frame context) context data only
  let styling ← site.styling word frame.line data
  around.render frame template (componentContext word (styling.named word) base)

end

/-- A template as its tree, with all that its procedure would depend on. -/
structure Script where
  site : Site
  source : Option String
  strict : Bool
  tree : Node

namespace Script

/-- What a script is called where it is rendered as a component. -/
def componentName (script : Script) : String :=
  (nonempty? script.site.name).getD unnamedComponent

/-- An outcome as it leaves a script, where mishaps are located. -/
def located (script : Script) (frame : Frame) (outcome : Except Failure String) :
    Except Failure String :=
  outcome.mapError (frame.locate script.source)

/-- The text of a node of a body; what can fail stands at the line of its node. -/
def nodeText {Loaded : Type} (script : Script) (around : Surroundings Loaded) (frame : Frame)
    (context : Dict) : Node → Except Failure String
  | .data _ text => .ok text
  -- Whatever fails in a node is located on its line.
  | .output position expression =>
    script.located (frame.atLine position.line)
      (expression.printed (around.lookup (frame.atLine position.line) context))
  | .component position name variant data only =>
    script.located (frame.atLine position.line)
      (around.component script.site (frame.atLine position.line) context name variant data only)
  | _ => .ok ""

/-- The texts of nodes one after another, up to the first that fails. -/
def bodyText {Loaded : Type} (script : Script) (around : Surroundings Loaded) (frame : Frame)
    (context : Dict) : List Node → Except Failure String
  | [] => .ok ""
  | node :: nodes => do
    let first ← script.nodeText around frame context node
    let others ← script.bodyText around frame context nodes
    .ok (first ++ others)

/-- The text of a script. -/
def text {Loaded : Type} (script : Script) (around : Surroundings Loaded) (frame : Frame)
    (context : Dict) : Except Failure String :=
  script.bodyText around frame context script.tree.body

/-- The template that a script is made into, if it has a procedure that can be carried out. -/
def compile (script : Script) : Except Failure Template := do
  let procedure ← script.site.procedure script.tree
  -- The names are checked after the procedure has been made, and the procedure after that.
  Environment.checked (checkNames script.site.name script.site.file)
  Environment.checked procedure.check
  .ok ⟨script.site.name, script.site.file, script.source, script.strict, procedure⟩

end Script

namespace Environment

/-- The script of a tree. -/
def scriptOf (environment : Environment) (tree : Node) (name file source : Option String) :
    Script :=
  ⟨environment.site name file, source, environment.strict, tree⟩

/-- The script under a name, unless there is none or it could not be made into a template. -/
def script (environment : Environment) (name : String) : Except Failure Script := do
  let source ← environment.load name
  let tree ← readTemplate (some name) source.file source.text
  let script := environment.scriptOf tree (some name) source.file (some source.text)
  -- What is wrong with the tree is reported as soon as the script is asked for.
  let _ ← script.compile
  .ok script

/-- What scripts ask for, given how components are rendered. -/
def around (environment : Environment) (strict : Bool)
    (render : Frame → Script → Dict → Except Failure String) : Surroundings Script where
  lookup := lookupIn strict
  load := environment.script
  extension := environment.extension
  render := render

end Environment

/-- The text of a script and of the scripts of its components, so many levels down. -/
def Script.textIn (environment : Environment) :
    Nat → Script → Frame → Dict → Except Failure String
  -- On the last level every component that is opened is refused.
  | 0, script, frame, context =>
    script.text
      (environment.around script.strict fun frame component _ =>
        .error (frame.tooDeep component.componentName))
      frame context
  | levels + 1, script, frame, context =>
    script.text
      (environment.around script.strict fun frame component context => do
        frame.checkDepth component.componentName
        Script.textIn environment levels component
          (frame.child component.componentName component.source) context)
      frame context

end Stencil
