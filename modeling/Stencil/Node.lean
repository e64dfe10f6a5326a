import Stencil.Location
import Stencil.Value

/-! Template trees. -/

namespace Stencil

/-- A node of a template tree with the place where it starts; any node may stand anywhere. -/
inductive Node
  -- Expressions come first, then the nodes of a body.
  | constant (position : Position) (value : Value)
  | name (position : Position) (name : String)
  | member (position : Position) (object : Node) (name : String)
  | list (position : Position) (items : List Node)
  | hash (position : Position) (keys values : List Node)
  | data (position : Position) (text : String)
  | output (position : Position) (expression : Node)
  | component (position : Position) (name : Node) (variant : Option String) (data : Option Node)
      (only : Bool)
  | template (position : Position) (body : List Node)

namespace Node

/-- The place where a node starts. -/
def position : Node → Position
  | constant position _ | name position _ | member position _ _ | list position _
  | hash position _ _ | data position _ | output position _ | component position _ _ _ _
  | template position _ => position

/-- The line where a node starts. -/
def line (node : Node) : Int :=
  node.position.line

/-- The name of a node's kind in messages. -/
def kindName : Node → String
  | constant .. => "Const"
  | name .. => "Name"
  | member .. => "Getattr"
  | list .. => "List"
  | hash .. => "Dict"
  | data .. => "Data"
  | output .. => "Output"
  | component .. => "Component"
  | template .. => "Template"

/-- The nodes directly inside a template. -/
def body : Node → List Node
  | template _ body => body
  | _ => []

/-- What a component is called when its name is an expression; a constant has to say its text. -/
def describe : Node → Except Fault String
  | name _ word => .ok word
  | member _ object word => do
    let described ← object.describe
    .ok (described ++ "." ++ word)
  | data _ text => .ok text
  -- A null describes itself by its node, any other constant by its value.
  | constant _ .null => .ok "<Const>"
  | constant _ value => value.print
  | node => .ok ("<" ++ node.kindName ++ ">")

end Node

end Stencil
