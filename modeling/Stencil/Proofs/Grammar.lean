import Stencil.Node.Parser
import Stencil.Proofs.WrittenNodes

/-! The grammar of templates: which tokens a tree is derived from. -/

namespace Stencil

/-- What tokens inside a tag can be derived from: parts of expressions, items and pairs. -/
inductive Phrase
  | primary (node : Node)
  | expression (node : Node)
  | items (nodes : List Node)
  | pairs (keys values : List Node)

/-- The names that are constants where an expression starts. -/
def constantWords : List String := ["true", "false", "none", "null"]

/-- The key of a hash that a token is derived from; every name is a text there. -/
inductive Token.KeyOf : Token → Node → Prop
  | word {token : Token} (kind : token.kind = .name ∨ token.kind = .string) :
    token.KeyOf (.constant token.position (.text token.value))
  | integer {token : Token} {number : Int} (kind : token.kind = .integer)
    (read : readInteger? token.value = some number) :
    token.KeyOf (.constant token.position (.int number))

/-- Tokens are derived from a phrase. -/
inductive Derives : List Token → Phrase → Prop
  -- Primary expressions: constants, names, and lists and hashes between brackets.
  | string {token : Token} (kind : token.kind = .string) :
    Derives [token] (.primary (.constant token.position (.text token.value)))
  | integer {token : Token} {number : Int} (kind : token.kind = .integer)
    (read : readInteger? token.value = some number) :
    Derives [token] (.primary (.constant token.position (.int number)))
  | float {token : Token} {number : Float} (kind : token.kind = .float)
    (read : readDouble? token.value = some number) :
    Derives [token] (.primary (.constant token.position (.float 0 number)))
  | wordTrue {token : Token} (named : token.isWord "true") :
    Derives [token] (.primary (.constant token.position (.bool true)))
  | wordFalse {token : Token} (named : token.isWord "false") :
    Derives [token] (.primary (.constant token.position (.bool false)))
  | wordNull {token : Token} (named : token.isWord "none" ∨ token.isWord "null") :
    Derives [token] (.primary (.constant token.position .null))
  | name {token : Token} (kind : token.kind = .name) (free : token.value ∉ constantWords) :
    Derives [token] (.primary (.name token.position token.value))
  | list {opening closing : Token} {words : List Token} {nodes : List Node}
    (opened : opening.kind = .bracketOpen) (items : Derives words (.items nodes))
    (closed : closing.kind = .bracketClose) :
    Derives (opening :: words ++ [closing]) (.primary (.list opening.position nodes))
  | hash {opening closing : Token} {words : List Token} {keys values : List Node}
    (opened : opening.kind = .braceOpen) (pairs : Derives words (.pairs keys values))
    (closed : closing.kind = .braceClose) :
    Derives (opening :: words ++ [closing]) (.primary (.hash opening.position keys values))
  -- Expressions: a primary one and any members behind it.
  | primary {words : List Token} {node : Node} (found : Derives words (.primary node)) :
    Derives words (.expression node)
  | member {words : List Token} {object : Node} {dot name : Token}
    (found : Derives words (.expression object)) (dotted : dot.kind = .dot)
    (named : name.kind = .name) :
    Derives (words ++ [dot, name]) (.expression (.member object.position object name.value))
  -- Items and pairs are separated by commas, and one may stand behind the last of them.
  | noItems : Derives [] (.items [])
  | lastItem {words : List Token} {node : Node} (found : Derives words (.expression node)) :
    Derives words (.items [node])
  | item {words others : List Token} {comma : Token} {node : Node} {nodes : List Node}
    (found : Derives words (.expression node)) (separated : comma.kind = .comma)
    (rest : Derives others (.items nodes)) :
    Derives (words ++ comma :: others) (.items (node :: nodes))
  | noPairs : Derives [] (.pairs [] [])
  | lastPair {token colon : Token} {words : List Token} {key value : Node}
    (named : token.KeyOf key) (assigned : colon.kind = .colon)
    (found : Derives words (.expression value)) :
    Derives (token :: colon :: words) (.pairs [key] [value])
  | pair {token colon comma : Token} {words others : List Token} {key value : Node}
    {keys values : List Node} (named : token.KeyOf key) (assigned : colon.kind = .colon)
    (found : Derives words (.expression value)) (separated : comma.kind = .comma)
    (rest : Derives others (.pairs keys values)) :
    Derives (token :: colon :: words ++ comma :: others) (.pairs (key :: keys) (value :: values))

/-- The variant of a component, if there is one. -/
inductive DerivesVariant : List Token → Option String → Prop
  | none : DerivesVariant [] none
  | some {token : Token} (kind : token.kind = .string) : DerivesVariant [token] (some token.value)

/-- The data of a component behind its word, if there is any. -/
inductive DerivesData : List Token → Option Node → Prop
  | none : DerivesData [] none
  | some {keyword : Token} {words : List Token} {node : Node} (named : keyword.isWord "with")
    (found : Derives words (.expression node)) : DerivesData (keyword :: words) (some node)

/-- The data of a view, if there is any; it does not start with the word that may follow it. -/
inductive DerivesViewData : List Token → Option Node → Prop
  | none : DerivesViewData [] none
  | some {first : Token} {words : List Token} {node : Node} (other : ¬ first.isWord "only")
    (found : Derives (first :: words) (.expression node)) :
    DerivesViewData (first :: words) (some node)

/-- Whether the word is there that cuts off the context of the caller. -/
inductive DerivesOnly : List Token → Bool → Prop
  | absent : DerivesOnly [] false
  | present {token : Token} (named : token.isWord "only") : DerivesOnly [token] true

/-- A block tag without its delimiters. -/
inductive DerivesTag : List Token → Node → Prop
  | component {keyword : Token} {called chosen given cut : List Token} {name : Node}
    {variant : Option String} {data : Option Node} {only : Bool}
    (named : keyword.isWord "component") (found : Derives called (.expression name))
    (varied : DerivesVariant chosen variant) (supplied : DerivesData given data)
    (ended : DerivesOnly cut only) :
    DerivesTag (keyword :: (called ++ chosen ++ given ++ cut))
      (.component keyword.position name variant data only)
  -- A view has no variant, and no keyword before its data.
  | view {keyword : Token} {called given cut : List Token} {name : Node} {data : Option Node}
    {only : Bool} (named : keyword.isWord "view") (found : Derives called (.expression name))
    (supplied : DerivesViewData given data) (ended : DerivesOnly cut only) :
    DerivesTag (keyword :: (called ++ given ++ cut))
      (.component keyword.position name none data only)

/-- A node of a body with its delimiters. -/
inductive DerivesNode : List Token → Node → Prop
  | data {token : Token} (kind : token.kind = .data) :
    DerivesNode [token] (.data token.position token.value)
  | output {opening closing : Token} {words : List Token} {node : Node}
    (opened : opening.kind = .outputOpen) (found : Derives words (.expression node))
    (closed : closing.kind = .outputClose) :
    DerivesNode (opening :: words ++ [closing]) (.output opening.position node)
  -- The node of a block is that of its tag.
  | block {opening closing : Token} {words : List Token} {node : Node}
    (opened : opening.kind = .blockOpen) (tag : DerivesTag words node)
    (closed : closing.kind = .blockClose) :
    DerivesNode (opening :: words ++ [closing]) node

/-- The body of a template up to the end of input. -/
inductive DerivesBody : List Token → List Node → Prop
  | ended {token : Token} (kind : token.kind = .endOfInput) : DerivesBody [token] []
  | node {words others : List Token} {node : Node} {nodes : List Node}
    (found : DerivesNode words node) (rest : DerivesBody others nodes) :
    DerivesBody (words ++ others) (node :: nodes)

/-- A template as the tree of its tokens. -/
inductive DerivesTemplate : List Token → Node → Prop
  | template {tokens : List Token} {nodes : List Node} (body : DerivesBody tokens nodes) :
    DerivesTemplate tokens (.template ⟨1, 0⟩ nodes)

/-- The kinds of token that an expression starts with. -/
def expressionStarts : List TokenKind :=
  [.string, .integer, .float, .name, .bracketOpen, .braceOpen]

/-- A word is a name. -/
theorem Token.isWord_kind {token : Token} {word : String} (named : token.isWord word) :
    token.kind = .name := by
  -- A keyword is tested for its kind first.
  simp only [Token.isWord, Bool.and_eq_true, decide_eq_true_eq] at named
  exact named.1

/-- A word has its text as its value. -/
theorem Token.isWord_value {token : Token} {word : String} (named : token.isWord word) :
    token.value = word := by
  -- A keyword is tested for its text second.
  simp only [Token.isWord, Bool.and_eq_true, decide_eq_true_eq] at named
  exact named.2

/-- What a phrase says about the token that it starts with. -/
def Phrase.StartsLike : Phrase → List Token → Prop
  | .primary node, words | .expression node, words =>
    ∃ first rest, words = first :: rest ∧ first.kind ∈ expressionStarts ∧
      node.position = first.position
  | .items _, _ | .pairs _ _, _ => True

/-- An expression starts with a token of its own, and at the place of it. -/
theorem Derives.starts {words : List Token} {phrase : Phrase} (derived : Derives words phrase) :
    phrase.StartsLike words := by
  induction derived with
  -- Every rule for a primary names the token that it starts with.
  | string kind | integer kind | float kind | name kind =>
    exact ⟨_, _, rfl, by simp [kind, expressionStarts], rfl⟩
  | wordTrue named | wordFalse named =>
    exact ⟨_, _, rfl, by simp [Token.isWord_kind named, expressionStarts], rfl⟩
  | wordNull named =>
    -- Both words for nothing are names.
    have kind := named.elim Token.isWord_kind Token.isWord_kind
    exact ⟨_, _, rfl, by simp [kind, expressionStarts], rfl⟩
  | list opened | hash opened =>
    exact ⟨_, _, rfl, by simp [opened, expressionStarts], rfl⟩
  | primary found ih => exact ih
  -- A member starts where its object does, and is at the place of it.
  | member found dotted named ih =>
    obtain ⟨first, rest, same, kind, place⟩ := ih
    exact ⟨first, rest ++ _, by rw [same]; rfl, kind, place⟩
  | _ => trivial

end Stencil
