import Stencil.Procedure

/-! Procedures as text. -/

namespace Stencil

/-- How a slot is written. -/
def Slot.word : Slot → String
  | .context => "ctx"
  | .textOf => "_s"
  | .pieces => "buf"
  | .append => "_append"
  | .componentName => "_component_name"

/-- How a helper is written. -/
def Helper.word : Helper → String
  | .textOf => "_str"
  | .lookup => "_lookup"
  | .member => "_getattr"
  | .loadTemplate => "_load_template"
  | .loadComponent => "_load_component"
  | .buildContext => "_build_context"
  | .renderComponent => "_render_component"
  | .append => "append"
  | .join _ => "join"

/-- How a method is written. -/
def Method.word : Method → String
  | .append => "append"
  | .join => "join"

/-- Doubles that have no digits are written by numbers outside the range. -/
def literalFormat : DoubleFormat :=
  { Value.doubleFormat with infinity := "1e309", notANumber := "(1e309-1e309)" }

/-- How a constant is written. -/
def literalText : Value → Except Fault String
  | .float _ value => .ok (literalFormat.write value)
  | value => value.shown

/-- Keys with their values, as long as there are both. -/
def pairTexts : List String → List String → List String
  | key :: keys, value :: values => (key ++ ": " ++ value) :: pairTexts keys values
  | _, _ => []

/-- The items of a tuple, in which a single one is followed by a comma. -/
def tupleText : List String → String
  | [item] => "(" ++ item ++ ",)"
  | items => "(" ++ ", ".intercalate items ++ ")"

mutual

/-- A term as text. -/
def Term.write : Term → Except Fault String
  | .literal value => literalText value
  | .slot slot => .ok slot.word
  | .helper helper => .ok helper.word
  | .noPieces => .ok "[]"
  | .method object method => do
    let object ← object.write
    .ok (object ++ "." ++ method.word)
  | .call function arguments => do
    let function ← function.write
    let arguments ← writeAll arguments
    .ok (function ++ "(" ++ ", ".intercalate arguments ++ ")")
  | .list items => do
    let items ← writeAll items
    .ok ("[" ++ ", ".intercalate items ++ "]")
  | .tuple items => do
    let items ← writeAll items
    .ok (tupleText items)
  -- The spreads come first, so that a pair can replace what they bring.
  | .dict spreads keys values => do
    let spreads ← writeAll spreads
    let keys ← writeAll keys
    let values ← writeAll values
    .ok ("\x7b" ++ ", ".intercalate (spreads.map ("**" ++ ·) ++ pairTexts keys values) ++ "\x7d")

/-- Terms as texts. -/
def writeAll : List Term → Except Fault (List String)
  | [] => .ok []
  | term :: terms => do
    let text ← term.write
    let texts ← writeAll terms
    .ok (text :: texts)

end

/-- A step as text. -/
def Statement.write : Statement → Except Fault String
  | .assign slot term => do
    let text ← term.write
    .ok (slot.word ++ " = " ++ text)
  -- The line is kept by the context of the render, which outlives the procedure.
  | .markLine line => .ok ("_get_render_ctx().line = " ++ writeInteger line)
  | .run term => term.write
  | .give term => do
    let text ← term.write
    .ok ("return " ++ text)

/-- Steps as texts. -/
def writeSteps : Procedure → Except Fault (List String)
  | [] => .ok []
  | step :: steps => do
    let text ← step.write
    let texts ← writeSteps steps
    .ok (text :: texts)

/-- A procedure as text, one step a line under its heading. -/
def Procedure.write (procedure : Procedure) : Except Fault String := do
  let texts ← writeSteps procedure
  .ok ("\n".intercalate ("def render(ctx):" :: texts.map ("    " ++ ·)))

end Stencil
