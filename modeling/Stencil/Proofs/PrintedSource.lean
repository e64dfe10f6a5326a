import Stencil.Proofs.Grammar
import Stencil.Source

/-! Trees are printed as sources, and some trees can be printed so that they are read back. -/

namespace Stencil

/-- A text with a backslash before each backslash and each quote of the kind in use. -/
def escaped (quote : Char) : List Char → List Char
  | [] => []
  | char :: rest =>
    if char = '\\' || char = quote then '\\' :: char :: escaped quote rest
    else char :: escaped quote rest

/-- A text between quotes. -/
def stringWord (quote : Char) (text : String) : Piece :=
  .token .string (quote :: escaped quote text.toList ++ [quote]) text.toList

/-- A name. -/
def nameWord (word : String) : Piece :=
  .plain .name word.toList

/-- A constant, as a keyword, in digits, or between quotes. -/
def Value.words (quote : Char) : Value → List Piece
  | .null => [nameWord "null"]
  | .bool value => [nameWord (if value then "true" else "false")]
  | .int number => [.plain .integer (writeInteger number).toList]
  | .text words => [stringWord quote words]
  | _ => []

/-- Items with a comma between each two of them. -/
def commaSeparated : List (List Piece) → List Piece
  | [] => []
  | [item] => item
  | item :: next :: items => item ++ .plain .comma [','] :: commaSeparated (next :: items)

/-- A key with a colon and its value. -/
def pairWords (key value : List Piece) : List Piece :=
  key ++ .plain .colon [':'] :: value

mutual

/-- The words of an expression. -/
def Node.words (quote : Char) : Node → List Piece
  | .constant _ value => value.words quote
  | .name _ word => [nameWord word]
  | .member _ object word => object.words quote ++ [.plain .dot ['.'], nameWord word]
  | .list _ items =>
    .plain .bracketOpen ['['] :: commaSeparated (Node.wordLists quote items) ++
      [.plain .bracketClose [']']]
  | .hash _ keys values =>
    .plain .braceOpen ['{'] ::
      commaSeparated (List.zipWith pairWords (Node.wordLists quote keys)
        (Node.wordLists quote values)) ++ [.plain .braceClose ['}']]
  -- The other nodes are no expressions.
  | _ => []

/-- The words of expressions, one by one. -/
def Node.wordLists (quote : Char) : List Node → List (List Piece)
  | [] => []
  | node :: nodes => node.words quote :: Node.wordLists quote nodes

end

/-- The variant of a component tag. -/
def variantWords (quote : Char) : Option String → List Piece
  | none => []
  | some variant => [stringWord quote variant]

/-- The data of a component tag. -/
def dataWords (quote : Char) : Option Node → List Piece
  | none => []
  | some data => nameWord "with" :: data.words quote

/-- The word that cuts off the context of the caller. -/
def onlyWords (only : Bool) : List Piece :=
  if only then [nameWord "only"] else []

/-- A tag with one space before each of its words and before its end. -/
def tagPieces (tag : Tag) (words : List Piece) : List Piece :=
  .plain tag.openKind tag.opener :: words.flatMap (fun word => [.gap [' '], word]) ++
    [.gap [' '], .plain tag.closeKind tag.closer]

/-- The pieces of a node of a body. -/
def Node.pieces (quote : Char) : Node → List Piece
  | .data _ text => [.plain .data text.toList]
  | .output _ expression => tagPieces .output (expression.words quote)
  | .component _ called variant given only =>
    tagPieces .block (nameWord "component" :: (called.words quote ++ variantWords quote variant ++
      dataWords quote given ++ onlyWords only))
  | _ => []

/-- A tree as a source, with its strings in quotes of one kind. -/
def Node.source (quote : Char) (tree : Node) : String :=
  String.ofList (spellingOf (tree.body.flatMap (Node.pieces quote)))

/-- A letter or underscore, and then letters, digits and underscores. -/
def IsIdentifier (word : String) : Prop :=
  ∃ first rest, word.toList = first :: rest ∧ isNameStart first = true ∧
    rest.all isNameChar = true

/-- A constant that can be printed. -/
def Value.IsPrintable : Value → Prop
  | .null | .bool _ | .text _ => True
  | .int number => 0 ≤ number
  | _ => False

/-- A key that can be printed. -/
def Node.IsPrintableKey : Node → Prop
  | .constant _ (.text _) => True
  | .constant _ (.int number) => 0 ≤ number
  | _ => False

mutual

/-- An expression that can be printed. -/
def Node.IsPrintable : Node → Prop
  | .constant _ value => value.IsPrintable
  -- A constant word would be read as its constant.
  | .name _ word => IsIdentifier word ∧ word ∉ constantWords
  | .member _ object word => object.IsPrintable ∧ IsIdentifier word
  | .list _ items => Node.ArePrintable items
  | .hash _ keys values =>
    (∀ key ∈ keys, key.IsPrintableKey) ∧ Node.ArePrintable values ∧ keys.length = values.length
  | _ => False

/-- Expressions that can be printed. -/
def Node.ArePrintable : List Node → Prop
  | [] => True
  | node :: nodes => node.IsPrintable ∧ Node.ArePrintable nodes

end

/-- A text in which nothing opens a tag or a comment. -/
def IsPlainText (text : String) : Prop :=
  ∀ second ∈ ['{', '%', '#'], ¬ ['{', second] <:+: text.toList

/-- A node of a body that can be printed. -/
def Node.IsPrintableStatement : Node → Prop
  | .data _ text => text ≠ "" ∧ IsPlainText text
  | .output _ expression => expression.IsPrintable
  | .component _ called _ given _ => called.IsPrintable ∧ ∀ node ∈ given, node.IsPrintable
  | _ => False

/-- A text runs neither into another text nor into the start of a tag. -/
def Node.MayPrecede : Node → Node → Prop
  | .data _ text, next =>
    (∀ place other, next ≠ .data place other) ∧ text.toList.getLast? ≠ some '{'
  | _, _ => True

/-- A body that can be printed. -/
def PrintableBody : List Node → Prop
  | [] => True
  | [node] => node.IsPrintableStatement
  | node :: next :: nodes =>
    node.IsPrintableStatement ∧ node.MayPrecede next ∧ PrintableBody (next :: nodes)

mutual

/-- A tree without the places of its nodes. -/
def Node.unplaced : Node → Node
  | .constant _ value => .constant .start value
  | .name _ word => .name .start word
  | .member _ object word => .member .start object.unplaced word
  | .list _ items => .list .start (Node.allUnplaced items)
  | .hash _ keys values => .hash .start (Node.allUnplaced keys) (Node.allUnplaced values)
  | .data _ text => .data .start text
  | .output _ expression => .output .start expression.unplaced
  | .component _ called variant none only => .component .start called.unplaced variant none only
  | .component _ called variant (some given) only =>
    .component .start called.unplaced variant (some given.unplaced) only
  | .template _ body => .template .start (Node.allUnplaced body)

/-- Trees without the places of their nodes. -/
def Node.allUnplaced : List Node → List Node
  | [] => []
  | node :: nodes => node.unplaced :: Node.allUnplaced nodes

end

end Stencil
