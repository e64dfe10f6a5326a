/-! Codes by which diagnostics are searched. -/

namespace Stencil

/-- The code of a kind of diagnostic. -/
inductive Code
  -- In the order of the families: lexer, parser, components, rendering, templates.
  | unclosedTag
  | unexpectedToken
  | invalidExpression
  | unknownTag
  | invalidTagArguments
  | invalidInvocationData
  | undefinedVariable
  | componentDepth
  | runtimeError
  | templateNotFound
  | unresolvableTemplate
  | syntaxError
  deriving DecidableEq

namespace Code

/-- All codes, by the stage that they belong to. -/
def all : List Code :=
  [unclosedTag, unexpectedToken, invalidExpression, unknownTag, invalidTagArguments,
   invalidInvocationData, undefinedVariable, componentDepth, runtimeError, templateNotFound,
   unresolvableTemplate, syntaxError]

/-- The name of a code. -/
def name : Code → String
  | unclosedTag => "UNCLOSED_TAG"
  | unexpectedToken => "UNEXPECTED_TOKEN"
  | invalidExpression => "INVALID_EXPRESSION"
  | unknownTag => "UNKNOWN_TAG"
  | invalidTagArguments => "INVALID_TAG_ARGUMENTS"
  | invalidInvocationData => "INVALID_INVOCATION_DATA"
  | undefinedVariable => "UNDEFINED_VARIABLE"
  | componentDepth => "COMPONENT_DEPTH"
  | runtimeError => "RUNTIME_ERROR"
  | templateNotFound => "TEMPLATE_NOT_FOUND"
  | unresolvableTemplate => "UNRESOLVABLE_TEMPLATE"
  | syntaxError => "SYNTAX_ERROR"

/-- The code as it is written. -/
def text : Code → String
  | unclosedTag => "T-LEX-001"
  | unexpectedToken => "T-LEX-002"
  | invalidExpression => "T-PAR-001"
  | unknownTag => "T-PAR-002"
  | invalidTagArguments => "T-PAR-003"
  | invalidInvocationData => "T-CMP-001"
  | undefinedVariable => "T-RUN-001"
  | componentDepth => "T-RUN-002"
  | runtimeError => "T-RUN-003"
  | templateNotFound => "T-TPL-001"
  | unresolvableTemplate => "T-TPL-002"
  | syntaxError => "T-TPL-003"

/-- The stage that a code belongs to. -/
def category : Code → String
  | unclosedTag | unexpectedToken => "lexer"
  | invalidExpression | unknownTag | invalidTagArguments => "parser"
  | invalidInvocationData => "compiler"
  | undefinedVariable | componentDepth | runtimeError => "runtime"
  | templateNotFound | unresolvableTemplate | syntaxError => "template"

end Code

end Stencil
