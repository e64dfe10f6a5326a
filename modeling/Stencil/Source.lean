import Stencil.Failure
import Stencil.Node.Parser
import Stencil.Token.Lexer

/-! Template sources, and the diagnostics of those that are malformed. -/

namespace Stencil

/-- The words for what keeps a text from being cut into tokens. -/
def LexProblem.message : LexProblem → String
  | .unclosedComment => "Unclosed comment, expected '#\x7d'"
  | .unclosedTag tag => "Unclosed tag, expected '" ++ String.ofList tag.closer ++ "'"
  | .strayCharacter char => "Unexpected character " ++ quoted (String.singleton char)

/-- The code for what keeps a text from being cut into tokens. -/
def LexProblem.code : LexProblem → Code
  | .unclosedComment | .unclosedTag _ => .unclosedTag
  | .strayCharacter _ => .unexpectedToken

/-- The words for what is wrong with a token. -/
def ParseProblem.message (token : Token) : ParseProblem → String
  | .expected kind =>
    "Expected " ++ kind.word ++ ", got " ++ token.kind.word ++ " " ++ quoted token.value
  | .unexpectedToken => "Unexpected " ++ token.kind.word ++ " token"
  | .emptyOutput => "Empty expression in output tag"
  | .missingTagName => "Expected tag name after '\x7b%'"
  | .unknownTag => "Unknown tag '" ++ token.value ++ "'"
  | .missingMemberName => "Expected attribute name after '.'"
  | .notAnExpression =>
    "Unexpected " ++ token.kind.word ++ " token " ++ quoted token.value ++ " in expression"
  | .listSeparator => "Expected ',' or ']' in list"
  | .hashSeparator => "Expected ',' or '\x7d' in hash"
  | .hashKey => "Hash keys must be names, strings or integers"
  | .missingData => "Expected data after 'with'"
  | .tagEnd tag => "Unexpected " ++ quoted token.value ++ " in " ++ tag ++ " tag"

/-- The code for what is wrong with a token. -/
def ParseProblem.code : ParseProblem → Code
  | .unknownTag => .unknownTag
  | .missingData | .tagEnd _ => .invalidTagArguments
  | _ => .invalidExpression

/-- How a token could be put right. -/
def ParseProblem.suggestion : ParseProblem → Option String
  | .unknownTag => some "Available tags: component, view"
  | .hashKey => some "Write \x7bclasses: 'a'\x7d or \x7b'classes': 'a'\x7d"
  | .missingData => some "\x7b% component 'Nav' with \x7bclasses: ['a']\x7d %\x7d"
  | _ => none

/-- The diagnostic of a text that cannot be cut into tokens. -/
def LexFault.diagnostic (fault : LexFault) (name : Option String) (source : String) : Diagnostic :=
  .malformed
    { stage := .lexer
      code := fault.problem.code
      message := fault.problem.message
      line := some fault.position.line
      column := some fault.position.column
      name := name
      -- Only the name is known while the text is cut.
      file := none
      source := some source
      suggestion := none }

/-- The diagnostic of a token that cannot stand where it does. -/
def ParseFault.diagnostic (fault : ParseFault) (name file source : Option String) : Diagnostic :=
  .malformed
    { stage := .parser fault.token
      code := fault.problem.code
      message := fault.problem.message fault.token
      line := some fault.token.position.line
      column := some fault.token.position.column
      name := none
      -- A source without a file is shown under its name.
      file := firstName file name
      source := source
      suggestion := fault.problem.suggestion }

/-- The tokens of a source. -/
def readTokens (name : Option String) (source : String) : Except Failure (List Token) :=
  match tokenize source with
  | .ok tokens => .ok tokens
  | .error fault => .error (.diagnostic (fault.diagnostic name source))

/-- The tree of tokens that come from a named source. -/
def readTree (name file source : Option String) (tokens : List Token) : Except Failure Node :=
  match Node.ofTokens tokens with
  | .ok tree => .ok tree
  | .error (.fault fault) => .error (.diagnostic (fault.diagnostic name file source))
  -- The rest is for tokens that were not cut from a text.
  | .error .tokensEnd => .error (.mishap .tokensEnd)
  | .error (.notInteger text) => .error (.mishap (.notInteger text))
  | .error (.notFloat text) => .error (.mishap (.notFloat text))

/-- The tree of a source. -/
def readTemplate (name file : Option String) (source : String) : Except Failure Node := do
  let tokens ← readTokens name source
  readTree name file (some source) tokens

end Stencil
