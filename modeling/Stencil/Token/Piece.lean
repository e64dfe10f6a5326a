import Stencil.Text.Characters
import Stencil.Token

/-! The pieces of a template text: tokens, blanks inside tags, and comments. -/

namespace Stencil

/-- The two kinds of tag. -/
inductive Tag
  | output
  | block
  deriving DecidableEq

/-- The kind of token that opens a tag. -/
def Tag.openKind : Tag → TokenKind
  | .output => .outputOpen
  | .block => .blockOpen

/-- The kind of token that closes a tag. -/
def Tag.closeKind : Tag → TokenKind
  | .output => .outputClose
  | .block => .blockClose

/-- The second of the two characters that open a tag and the first of those that close it. -/
def Tag.mark : Tag → Char
  | .output => '{'
  | .block => '%'

/-- What opens a tag. -/
def Tag.opener (tag : Tag) : List Char :=
  ['{', tag.mark]

/-- What closes a tag. -/
def Tag.closer : Tag → List Char
  | .output => ['}', '}']
  | .block => ['%', '}']

/-- Where the reader stands: in plain text, or inside a tag. -/
inductive Zone
  | text
  | tag (tag : Tag)
  deriving DecidableEq

/-- A stretch of the text: a token with its value, or a gap that means nothing. -/
inductive Piece
  | token (kind : TokenKind) (spelling : List Char) (value : List Char)
  | gap (spelling : List Char)
  deriving DecidableEq

/-- The stretch of text that a piece takes up. -/
def Piece.spelling : Piece → List Char
  | .token _ spelling _ => spelling
  | .gap spelling => spelling

/-- A token that is spelled as its value. -/
def Piece.plain (kind : TokenKind) (spelling : List Char) : Piece :=
  .token kind spelling spelling

/-- What keeps a text from being cut into pieces. -/
inductive LexProblem
  | unclosedComment
  | unclosedTag (tag : Tag)
  | strayCharacter (char : Char)
  deriving DecidableEq

/-- What comes next in a text: its end, a problem, or a piece with what follows it. -/
inductive Next
  | finished
  | problem (problem : LexProblem)
  | piece (piece : Piece) (zone : Zone) (rest : List Char)

/-- Whether two characters open a tag or a comment. -/
def isOpener (first second : Char) : Bool :=
  -- The closing of a tag means nothing in plain text.
  first = '{' && (second = '{' || second = '%' || second = '#')

/-- Plain text up to the next tag or comment, with what follows. -/
def splitData : List Char → List Char × List Char
  | [] => ([], [])
  | [char] => ([char], [])
  | first :: second :: rest =>
    -- A brace that opens nothing is text like any other character.
    if isOpener first second then ([], first :: second :: rest)
    else
      let (data, tail) := splitData (second :: rest)
      (first :: data, tail)

/-- A comment up to its end, with what follows. -/
def splitComment : List Char → Option (List Char × List Char)
  | '#' :: '}' :: rest => some (['#', '}'], rest)
  | [] => none
  | char :: rest => (splitComment rest).map fun (body, tail) => (char :: body, tail)

/-- A string up to its closing quote, with what follows; a backslash keeps the next character. -/
def splitString (quote : Char) : List Char → Option (List Char × List Char)
  | [] => none
  | char :: rest =>
    if char = quote then some ([], rest)
    else if char = '\\' then
      -- The backslash stays in the spelling, and a quote behind it does not end the string.
      match rest with
      | [] => none
      | kept :: rest =>
        (splitString quote rest).map fun (body, tail) => (char :: kept :: body, tail)
    else (splitString quote rest).map fun (body, tail) => (char :: body, tail)

/-- The value of a string: a backslash gives way to the next character, unless that ends a line. -/
def unescape : List Char → List Char
  | '\\' :: kept :: rest =>
    if kept = '\n' then '\\' :: kept :: unescape rest else kept :: unescape rest
  | char :: rest => char :: unescape rest
  | [] => []

/-- Letters that start a name. -/
def isNameStart (char : Char) : Bool :=
  char.isAlpha || char = '_'

/-- Characters that continue a name. -/
def isNameChar (char : Char) : Bool :=
  char.isAlphanum || char = '_'

/-- The token that a sign stands for. -/
def punctuation? : Char → Option TokenKind
  | '.' => some .dot
  | ',' => some .comma
  | ':' => some .colon
  | '{' => some .braceOpen
  | '}' => some .braceClose
  | '[' => some .bracketOpen
  | ']' => some .bracketClose
  | _ => none

/-- A number: a point between digits makes it a float. -/
def numberPiece (text : List Char) : Piece × List Char :=
  let whole := text.takeWhile isDecimal
  match text.dropWhile isDecimal with
  | '.' :: digit :: rest =>
    -- Only one point belongs to the number; another one starts a member.
    if isDecimal digit then
      (.plain .float (whole ++ '.' :: (digit :: rest).takeWhile isDecimal),
        (digit :: rest).dropWhile isDecimal)
    -- A point without a digit behind it is left for what comes next.
    else (.plain .integer whole, '.' :: digit :: rest)
  | rest => (.plain .integer whole, rest)

/-- A sign inside a tag, if the character is one. -/
def signPiece (tag : Tag) (char : Char) (rest : List Char) : Next :=
  match punctuation? char with
  | some kind => .piece (.plain kind [char]) (.tag tag) rest
  | none => .problem (.strayCharacter char)

/-- The operand of a tag that starts with a character. -/
def operandPiece (tag : Tag) (char : Char) (rest : List Char) : Next :=
  if char = '\'' || char = '"' then
    match splitString char rest with
    | some (body, tail) =>
      .piece (.token .string (char :: body ++ [char]) (unescape body)) (.tag tag) tail
    -- A quote that is never closed is reported as a stray character.
    | none => signPiece tag char rest
  else if isNameStart char then
    .piece (.plain .name (char :: rest.takeWhile isNameChar)) (.tag tag) (rest.dropWhile isNameChar)
  else if isDecimal char then
    let (piece, tail) := numberPiece (char :: rest)
    .piece piece (.tag tag) tail
  else signPiece tag char rest

/-- What comes next in plain text. -/
def nextInText : List Char → Next
  | [] => .finished
  | '{' :: '{' :: rest => .piece (.plain .outputOpen ['{', '{']) (.tag .output) rest
  | '{' :: '%' :: rest => .piece (.plain .blockOpen ['{', '%']) (.tag .block) rest
  -- A comment leaves no token, but its spelling moves the position on.
  | '{' :: '#' :: rest =>
    match splitComment rest with
    | some (body, tail) => .piece (.gap ('{' :: '#' :: body)) .text tail
    | none => .problem .unclosedComment
  | text =>
    let (data, tail) := splitData text
    .piece (.plain .data data) .text tail

/-- What comes next inside a tag. -/
def nextInTag (tag : Tag) : List Char → Next
  -- The text may not end before the tag does.
  | [] => .problem (.unclosedTag tag)
  | char :: rest =>
    if isBlank char then
      .piece (.gap (char :: rest.takeWhile isBlank)) (.tag tag) (rest.dropWhile isBlank)
    -- The closer goes before any sign, so the first two of three braces close an output.
    else if tag.closer.isPrefixOf (char :: rest) then
      .piece (.plain tag.closeKind tag.closer) .text ((char :: rest).drop 2)
    else operandPiece tag char rest

/-- What comes next in a text. -/
def nextPiece : Zone → List Char → Next
  | .text, text => nextInText text
  | .tag tag, text => nextInTag tag text

end Stencil
