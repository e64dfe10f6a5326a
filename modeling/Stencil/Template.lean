import Stencil.Procedure
import Stencil.Failure

/-! Templates that are ready to be rendered. -/

namespace Stencil

/-- A procedure with where it comes from, and whether its variables have to be defined. -/
structure Template where
  name : Option String
  file : Option String
  source : Option String
  strict : Bool
  procedure : Procedure

/-- What a template without a name is called where it is rendered as a component. -/
def unnamedComponent : String := "<component>"

/-- What a template is called where it is rendered as a component. -/
def Template.componentName (template : Template) : String :=
  (nonempty? template.name).getD unnamedComponent

/-- How a template is shown. -/
def Template.shown (template : Template) : String :=
  "<Template " ++ (nonempty? template.name).getD "(inline)" ++ ">"

/-- Whether a value can be written into a procedure. -/
def checkLiteral : Value → Except Mishap Unit
  | .list items => .error (.badConstant (Value.list items).kindName)
  | .dict entries => .error (.badConstant (Value.dict entries).kindName)
  | .object identity kind text shown member item =>
    .error (.badConstant (Value.object identity kind text shown member item).kindName)
  | _ => .ok ()

mutual

/-- Whether a term can be carried out: its constants are plain, and its keys have values. -/
def Term.check : Term → Except Mishap Unit
  | .literal value => checkLiteral value
  | .slot _ | .helper _ | .noPieces => .ok ()
  | .method object _ => object.check
  | .call function arguments => do
    function.check
    checkAll arguments
  | .list items => checkAll items
  | .tuple items => checkAll items
  | .dict spreads keys values =>
    -- The count is checked before anything inside is.
    if keys.length = values.length then do
      checkAll keys
      checkAll spreads
      checkAll values
    else .error .unpairedHash

/-- Whether terms can be carried out. -/
def checkAll : List Term → Except Mishap Unit
  | [] => .ok ()
  | term :: terms => do
    term.check
    checkAll terms

end

/-- Whether a step can be carried out. -/
def Statement.check : Statement → Except Mishap Unit
  | .assign _ term | .run term | .give term => term.check
  | .markLine _ => .ok ()

/-- Whether all steps can be carried out. -/
def Procedure.check : Procedure → Except Mishap Unit
  | [] => .ok ()
  | step :: steps => do
    step.check
    Procedure.check steps

/-- Whether a template may go by its name or file. -/
def checkNames (name file : Option String) : Except Mishap Unit :=
  -- The file goes before the name, and neither may hold the character that ends texts elsewhere.
  if (firstName file name).any fun text => text.toList.contains '\x00' then .error .nulInName
  else .ok ()

end Stencil
