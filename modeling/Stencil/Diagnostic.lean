import Stencil.Code
import Stencil.Location
import Stencil.Similarity
import Stencil.Snippet
import Stencil.Token

/-! Diagnostics: what is reported about a template. -/

namespace Stencil

/-- The stage that finds a template malformed. -/
inductive Stage
  | general
  | lexer
  | parser (token : Token)
  deriving DecidableEq

/-- A malformed template, with the place of the fault as far as it is known. -/
structure SyntaxFault where
  stage : Stage
  code : Code
  message : String
  -- A fault that is told by hand may have no place at all.
  line : Option Int
  column : Option Int
  name : Option String
  file : Option String
  source : Option String
  suggestion : Option String
  deriving DecidableEq

/-- A failure while a template is rendered. -/
structure RuntimeFault where
  code : Code
  message : String
  template : Option String
  line : Option Int
  suggestion : Option String
  snippet : Option Snippet
  stack : List (String × Int)
  deriving DecidableEq

/-- A variable that is read and not defined. -/
structure UndefinedFault where
  name : String
  template : String
  line : Option Int
  closest : Option String
  snippet : Option Snippet
  deriving DecidableEq

/-- Component data that cannot be used. -/
structure InvocationFault where
  component : String
  reason : String
  template : Option String
  line : Option Int
  deriving DecidableEq

/-- A component whose name is known only when it is rendered, and that has no template. -/
structure UnresolvableFault where
  component : String
  path : String
  template : Option String
  line : Option Int
  deriving DecidableEq

/-- What is reported about a template. -/
inductive Diagnostic
  | general (message : String)
  | notFound (message : String)
  | unresolvable (fault : UnresolvableFault)
  | malformed (fault : SyntaxFault)
  | invalidData (fault : InvocationFault)
  | runtime (fault : RuntimeFault)
  | undefined (fault : UndefinedFault)
  deriving DecidableEq

/-- The line of a malformed template, with the column if both are known. -/
def SyntaxFault.place (fault : SyntaxFault) : String :=
  let suffix := lineSuffix fault.line
  match fault.column with
  | some column => if suffix.isEmpty then "" else suffix ++ ":" ++ writeInteger column
  | none => suffix

/-- The line of the source that a fault stands in. -/
def SyntaxFault.sourceLine? (fault : SyntaxFault) : Option (Int × String) :=
  match fault.source, fault.line with
  | some source, some line =>
    (numberLines (linesOf source)).find? fun row => row.1 = line
  | _, _ => none

/-- The line of the source that a fault stands in, with a caret under the column. -/
def SyntaxFault.excerpt (fault : SyntaxFault) : String :=
  match fault.sourceLine? with
  | none => ""
  | some (line, text) =>
    -- The number has three places here and two in a snippet.
    "\n   |\n" ++ padLeft 3 (writeInteger line) ++ " | " ++ text ++
      match fault.column with
      | some column => "\n" ++ caretRow column
      | none => ""

/-- The report of a malformed template. -/
def SyntaxFault.report (fault : SyntaxFault) : String :=
  "Syntax Error: " ++ fault.message ++ "\n  --> " ++
    nameOrUnnamed (firstName fault.file fault.name) ++ fault.place ++ fault.excerpt ++
    match nonempty? fault.suggestion with
    | some suggestion => "\n\nSuggestion: " ++ suggestion
    | none => ""

/-- The report of a failure while a template is rendered. -/
def RuntimeFault.report (fault : RuntimeFault) : String :=
  -- Each part is a list of lines, empty where there is nothing to tell.
  let place := if isLocated fault.template fault.line
    then ["  Location: " ++ location fault.template fault.line] else []
  let snippet := fault.snippet.toList.map Snippet.text
  let stack := if fault.stack.isEmpty then [] else ["", stackText fault.stack]
  let suggestion := (nonempty? fault.suggestion).toList.map fun text => "\n  Suggestion: " ++ text
  "\n".intercalate (["Runtime Error: " ++ fault.message] ++ place ++ snippet ++ stack ++ suggestion)

/-- The report of an undefined variable. -/
def UndefinedFault.report (fault : UndefinedFault) : String :=
  "Undefined variable '" ++ fault.name ++ "' in " ++ fault.template ++ lineSuffix fault.line ++
    (match fault.closest with
      | some name => ". Did you mean '" ++ name ++ "'?"
      | none => "") ++
    match fault.snippet with
    | some snippet => "\n" ++ snippet.text
    | none => ""

/-- The report of component data that cannot be used. -/
def InvocationFault.report (fault : InvocationFault) : String :=
  let place := if isLocated fault.template fault.line
    then " in " ++ location fault.template fault.line else ""
  "Invalid data passed to component '" ++ fault.component ++ "'" ++ place ++ ": " ++ fault.reason ++
    "\n  Hint: Pass a mapping such as \x7bclasses: ['a'], modifiers: ['active']\x7d"

/-- The same fault at another place. -/
def InvocationFault.located (fault : InvocationFault) (template : Option String) (line : Int) :
    InvocationFault :=
  { fault with template := template, line := some line }

/-- The report of a component that has no template. -/
def UnresolvableFault.report (fault : UnresolvableFault) : String :=
  "Component '" ++ fault.component ++ "' could not be resolved: template '" ++ fault.path ++
    "' not found (invoked from " ++ location fault.template fault.line ++ ")"

namespace Diagnostic

/-- The full text of a diagnostic. -/
def message : Diagnostic → String
  | general message => message
  | notFound message => message
  | unresolvable fault => fault.report
  | malformed fault => fault.report
  | invalidData fault => fault.report
  | runtime fault => fault.report
  | undefined fault => fault.report

/-- The code of a diagnostic. -/
def code? : Diagnostic → Option Code
  -- A report without a kind of its own has no code.
  | general _ => none
  | notFound _ => some .templateNotFound
  | unresolvable _ => some .unresolvableTemplate
  | malformed fault => some fault.code
  | invalidData _ => some .invalidInvocationData
  | runtime fault => some fault.code
  | undefined _ => some .undefinedVariable

end Diagnostic

/-- Whether a text holds another one. -/
def holdsText (part : List Char) : List Char → Bool
  | [] => part.isEmpty
  | char :: rest => part.isPrefixOf (char :: rest) || holdsText part rest

/-- A report behind its code, unless the report already names it. -/
def compactReport (code : Option Code) (report : String) : String :=
  match code with
  | none => report
  | some code =>
    if holdsText code.text.toList report.toList then report else code.text ++ ": " ++ report

end Stencil
