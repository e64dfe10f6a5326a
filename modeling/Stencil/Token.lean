import Stencil.Location
import Stencil.Text.Quoted
import Stencil.Decimal.Layout

/-! Tokens: the words of a template. -/

namespace Stencil

/-- Kinds of token. -/
inductive TokenKind
  | data
  | outputOpen
  | outputClose
  | blockOpen
  | blockClose
  | name
  | string
  | integer
  | float
  | dot
  | comma
  | colon
  | braceOpen
  | braceClose
  | bracketOpen
  | bracketClose
  | endOfInput
  deriving DecidableEq

/-- All kinds of token. -/
def TokenKind.all : List TokenKind :=
  [.data, .outputOpen, .outputClose, .blockOpen, .blockClose, .name, .string, .integer, .float,
   .dot, .comma, .colon, .braceOpen, .braceClose, .bracketOpen, .bracketClose, .endOfInput]

/-- The label of a kind where tokens are listed. -/
def TokenKind.label : TokenKind → String
  | .data => "DATA"
  | .outputOpen => "VARIABLE_BEGIN"
  | .outputClose => "VARIABLE_END"
  | .blockOpen => "BLOCK_BEGIN"
  | .blockClose => "BLOCK_END"
  | .name => "NAME"
  | .string => "STRING"
  | .integer => "INTEGER"
  | .float => "FLOAT"
  | .dot => "DOT"
  | .comma => "COMMA"
  | .colon => "COLON"
  | .braceOpen => "LBRACE"
  | .braceClose => "RBRACE"
  | .bracketOpen => "LBRACKET"
  | .bracketClose => "RBRACKET"
  | .endOfInput => "EOF"

/-- The word for a kind in messages. -/
def TokenKind.word : TokenKind → String
  | .data => "data"
  | .outputOpen => "variable_begin"
  | .outputClose => "variable_end"
  | .blockOpen => "block_begin"
  | .blockClose => "block_end"
  | .name => "name"
  | .string => "string"
  | .integer => "integer"
  | .float => "float"
  | .dot => "dot"
  | .comma => "comma"
  | .colon => "colon"
  | .braceOpen => "lbrace"
  | .braceClose => "rbrace"
  | .bracketOpen => "lbracket"
  | .bracketClose => "rbracket"
  | .endOfInput => "eof"

/-- A token with its value and the place where it starts. -/
structure Token where
  kind : TokenKind
  value : String
  position : Position
  deriving DecidableEq

/-- How a token is listed. -/
def Token.shown (token : Token) : String :=
  "Token(" ++ token.kind.label ++ ", " ++ quoted token.value ++ ", " ++
    writeInteger token.position.line ++ ":" ++ writeInteger token.position.column ++ ")"

end Stencil
