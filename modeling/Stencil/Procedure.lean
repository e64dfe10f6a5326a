import Stencil.Value

/-! Procedures: the steps by which a template is rendered. -/

namespace Stencil

/-- The names that a procedure binds for itself. -/
inductive Slot
  | context
  | textOf
  | pieces
  | append
  | componentName
  deriving DecidableEq

/-- What a procedure calls to do its work. -/
inductive Helper
  | textOf
  | lookup
  | member
  | loadTemplate
  | loadComponent
  | buildContext
  | renderComponent
  | append
  | join (between : String)
  deriving DecidableEq

/-- What can be asked of a collection of pieces and of a separator between them. -/
inductive Method
  | append
  | join
  deriving DecidableEq

/-- A term of a procedure; a dictionary takes over whole dictionaries before pairs of its own. -/
inductive Term
  | literal (value : Value)
  | slot (slot : Slot)
  | helper (helper : Helper)
  | noPieces
  -- Functions and methods are terms of their own, as in the text that is printed.
  | method (object : Term) (method : Method)
  | call (function : Term) (arguments : List Term)
  | list (items : List Term)
  | tuple (items : List Term)
  | dict (spreads keys values : List Term)

/-- A step of a procedure. -/
inductive Statement
  | assign (slot : Slot) (term : Term)
  | markLine (line : Int)
  | run (term : Term)
  | give (term : Term)

/-- Steps that turn a context into text. -/
abbrev Procedure := List Statement

/-- A text as a term. -/
def Term.text (text : String) : Term :=
  .literal (.text text)

/-- A text or null as a term. -/
def Term.textOrNull (text : Option String) : Term :=
  .literal ((text.map Value.text).getD .null)

/-- The step that adds a term to the pieces. -/
def Statement.append (term : Term) : Statement :=
  .run (.call (.slot .append) [term])

/-- A procedure starts without pieces. -/
def Procedure.opening : Procedure :=
  [.assign .textOf (.helper .textOf),
   .assign .pieces .noPieces,
   .assign .append (.method (.slot .pieces) .append)]

/-- A procedure ends with its pieces as one text. -/
def Procedure.closing : Procedure :=
  [.give (.call (.method (.text "") .join) [.slot .pieces])]

end Stencil
