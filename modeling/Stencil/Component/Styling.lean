import Stencil.Dict
import Stencil.Failure
import Stencil.Node

/-! Classes and modifiers of a component, taken from the data that it is invoked with. -/

namespace Stencil

/-- Why the data of a component cannot be used. -/
inductive DataProblem
  | notHash (kind : String)
  | notConstant (key kind : String)
  | notConstantItem (key kind : String)
  deriving DecidableEq

/-- The words for a problem with data. -/
def DataProblem.message : DataProblem → String
  | .notHash kind => "expected a hash of key/value pairs, got " ++ kind
  | .notConstant key kind =>
    "'" ++ key ++ "' must be a constant or a list of constants, got " ++ kind
  | .notConstantItem key kind => "'" ++ key ++ "' list items must be constants, got " ++ kind

/-- The shape of a value of classes or modifiers. -/
inductive StyleValue
  | constant (text : String)
  | list (items : List String)
  deriving DecidableEq

/-- Why no styling can be taken from data. -/
inductive DataFault
  | problem (problem : DataProblem)
  | raised (fault : Fault)
  -- A tree that is built by hand may have keys and values that do not pair up.
  | missingValues
  | surplusValues
  | badKey (kind : String)
  deriving DecidableEq

/-- The text of a constant among classes or modifiers. -/
def styleText : Value → Except DataFault String
  -- Null adds nothing, and truth values are written as in a source.
  | .null => .ok ""
  | .bool value => .ok (if value then "true" else "false")
  | value => value.print.mapError .raised

/-- The texts of the items of a list, which have to be constants. -/
def styleItems (key : String) : List Node → Except DataFault (List String)
  | [] => .ok []
  | .constant _ value :: items => do
    let text ← styleText value
    let texts ← styleItems key items
    .ok (text :: texts)
  -- _ :: Only a constant has a text before anything is rendered.
  | item :: _ => .error (.problem (.notConstantItem key item.kindName))

/-- The shape of a value under a key of classes or modifiers. -/
def classify (key : String) : Node → Except DataFault StyleValue
  | .constant _ value => (styleText value).map .constant
  | .list _ items => (styleItems key items).map .list
  -- A variable is no constant, as styling is settled before any render.
  | node => .error (.problem (.notConstant key node.kindName))

/-- The texts of a shape without the empty ones. -/
def StyleValue.texts : StyleValue → List String
  -- An empty text is the same as none at all.
  | .constant text => if text.isEmpty then [] else [text]
  | .list items => items.filter fun item => !item.isEmpty

/-- Classes and modifiers. -/
structure Styling where
  classes : List String
  modifiers : List String
  deriving DecidableEq

/-- The styling of one invocation followed by that of another. -/
def Styling.append (first second : Styling) : Styling :=
  ⟨first.classes ++ second.classes, first.modifiers ++ second.modifiers⟩

/-- The texts under a key of classes or modifiers. -/
def textsUnder (key : String) (value : Node) : Except DataFault (List String) :=
  (classify key value).map StyleValue.texts

/-- The styling that one pair of a hash gives; other keys give none. -/
def pairStyling (key value : Node) : Except DataFault Styling :=
  match key with
  | .constant _ (.text "classes") => (textsUnder "classes" value).map fun texts => ⟨texts, []⟩
  | .constant _ (.text "modifier") => (textsUnder "modifier" value).map fun texts => ⟨[], texts⟩
  | .constant _ (.text "modifiers") => (textsUnder "modifiers" value).map fun texts => ⟨[], texts⟩
  -- The pairs stand for a dictionary, so any other constant has to be able to be a key.
  | .constant _ constant =>
    if constant.isKey then .ok ⟨[], []⟩ else .error (.badKey constant.kindName)
  | _ => .ok ⟨[], []⟩

/-- The styling of the pairs of a hash in order. -/
def pairsStyling : List Node → List Node → Except DataFault Styling
  | [], [] => .ok ⟨[], []⟩
  | key :: keys, value :: values => do
    let first ← pairStyling key value
    let others ← pairsStyling keys values
    .ok (first.append others)
  -- A tree that is built by hand may have keys and values that do not pair up.
  | [], _ :: _ => .error .surplusValues
  | _ :: _, [] => .error .missingValues

/-- The styling that data gives, with modifiers as they are written. -/
def stylingOf : Option Node → Except DataFault Styling
  | none => .ok ⟨[], []⟩
  | some (.hash _ keys values) => pairsStyling keys values
  | some node => .error (.problem (.notHash node.kindName))

/-- What stands between a component's name and a modifier. -/
def modifierSeparator : String := "--"

/-- The styling of a named component: its name is no class, and it leads every modifier. -/
def Styling.named (styling : Styling) (name : String) : Styling where
  classes := styling.classes.filter (· ≠ name)
  modifiers := styling.modifiers.map fun modifier => name ++ modifierSeparator ++ modifier

/-- The failure of data that gives no styling, which has no place yet. -/
def DataFault.failure (component : String) : DataFault → Failure
  | .problem cause => .diagnostic (.invalidData ⟨component, cause.message, none, none⟩)
  | .raised fault => fault.failure
  | .missingValues => .mishap .missingValues
  | .surplusValues => .mishap .surplusValues
  | .badKey kind => .mishap (.badKey kind)

/-- A failure where a component is invoked: data that cannot be used is reported there. -/
def Failure.invoked (caller : Option String) (line : Int) : Failure → Failure
  | .diagnostic (.invalidData fault) => .diagnostic (.invalidData (fault.located caller line))
  | failure => failure

end Stencil
