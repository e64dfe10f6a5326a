import Stencil.Decimal.Read
import Stencil.Node
import Stencil.Token

/-! Template trees are read from tokens, one token ahead and never back. -/

namespace Stencil

/-- What is wrong with a token where it stands. -/
inductive ParseProblem
  | expected (kind : TokenKind)
  | unexpectedToken
  | emptyOutput
  | missingTagName
  | unknownTag
  | missingMemberName
  | notAnExpression
  | listSeparator
  | hashSeparator
  | hashKey
  | missingData
  | tagEnd (tag : String)
  deriving DecidableEq

/-- A token that cannot stand where it does. -/
structure ParseFault where
  problem : ParseProblem
  token : Token
  deriving DecidableEq

/-- Why reading tokens stops. -/
inductive ParseStop
  | fault (fault : ParseFault)
  | tokensEnd
  | notInteger (text : String)
  | notFloat (text : String)
  deriving DecidableEq

/-- What a stretch of tokens stands for, unless reading stops. -/
abbrev Reading := Except ParseStop

/-- The first token cannot stand where it does. -/
def refuse {Meaning : Type} (problem : ParseProblem) : List Token → Reading Meaning
  | [] => .error .tokensEnd
  | token :: _ => .error (.fault ⟨problem, token⟩)

/-- What follows a token of the required kind. -/
def expect (kind : TokenKind) : List Token → Reading (List Token)
  | [] => .error .tokensEnd
  | token :: rest =>
    if token.kind = kind then .ok rest else refuse (.expected kind) (token :: rest)

/-- Whether a token is a given word. -/
def Token.isWord (token : Token) (word : String) : Bool :=
  token.kind = .name && token.value = word

/-- The constant that an integer token stands for. -/
def integerConstant (token : Token) : Reading Node :=
  match readInteger? token.value with
  | some number => .ok (.constant token.position (.int number))
  | none => .error (.notInteger token.value)

/-- The constant that a float token stands for; what is written in digits needs no identity. -/
def floatConstant (token : Token) : Reading Node :=
  match readDouble? token.value with
  | some number => .ok (.constant token.position (.float 0 number))
  | none => .error (.notFloat token.value)

/-- The constant that some names stand for, or a variable. -/
def namedNode (token : Token) : Node :=
  match token.value with
  | "true" => .constant token.position (.bool true)
  | "false" => .constant token.position (.bool false)
  | "none" | "null" => .constant token.position .null
  -- Only these words are reserved, and only where an expression starts.
  | name => .name token.position name

/-- The key of a hash, in which every name is a text. -/
def hashKey : List Token → Reading (Node × List Token)
  | [] => .error .tokensEnd
  | token :: rest =>
    match token.kind with
    -- The words of constants are texts here as well.
    | .name | .string => .ok (.constant token.position (.text token.value), rest)
    | .integer => (integerConstant token).map (·, rest)
    | _ => refuse .hashKey (token :: rest)

/-- A comma is skipped, and the end of a list or hash is left standing. -/
def separator (close : TokenKind) (problem : ParseProblem) :
    List Token → Reading (List Token)
  | [] => .error .tokensEnd
  | token :: rest =>
    if token.kind = .comma then .ok rest
    -- The end may follow a comma, so it is looked for again before the next item.
    else if token.kind = close then .ok (token :: rest)
    else refuse problem (token :: rest)

/-- The members that follow an expression, each read from what stands before it. -/
def memberChain (object : Node) : List Token → Reading (Node × List Token)
  | [] => .error .tokensEnd
  | token :: rest =>
    if token.kind = .dot then
      match rest with
      | [] => .error .tokensEnd
      | name :: rest =>
        -- The object is at the place where the whole chain starts.
        if name.kind = .name then memberChain (.member object.position object name.value) rest
        else refuse .missingMemberName (name :: rest)
    else .ok (object, token :: rest)

mutual

/-- An expression and its members. The bound on steps is never reached before the tokens end. -/
def expressionWithin : Nat → List Token → Reading (Node × List Token)
  | 0, _ => .error .tokensEnd
  | steps + 1, tokens => do
    -- Members belong to the whole of what stands before them.
    let (object, rest) ← primaryWithin steps tokens
    memberChain object rest

/-- An expression without members. -/
def primaryWithin : Nat → List Token → Reading (Node × List Token)
  -- There are steps enough for all tokens, so this case is not reached.
  | 0, _ => .error .tokensEnd
  | _ + 1, [] => .error .tokensEnd
  | steps + 1, token :: rest =>
    match token.kind with
    | .string => .ok (.constant token.position (.text token.value), rest)
    | .integer => (integerConstant token).map (·, rest)
    | .float => (floatConstant token).map (·, rest)
    | .name => .ok (namedNode token, rest)
    -- Only the two brackets read on inside.
    | .bracketOpen => do
      let (items, rest) ← itemsWithin steps rest
      .ok (.list token.position items, rest)
    | .braceOpen => do
      let ((keys, values), rest) ← pairsWithin steps rest
      .ok (.hash token.position keys values, rest)
    | _ => refuse .notAnExpression (token :: rest)

/-- The items of a list up to its end. -/
def itemsWithin : Nat → List Token → Reading (List Node × List Token)
  | 0, _ => .error .tokensEnd
  | _ + 1, [] => .error .tokensEnd
  | steps + 1, token :: rest =>
    -- The closer may stand behind a comma.
    if token.kind = .bracketClose then .ok ([], rest)
    else do
      let (item, rest) ← expressionWithin steps (token :: rest)
      let rest ← separator .bracketClose .listSeparator rest
      let (items, rest) ← itemsWithin steps rest
      .ok (item :: items, rest)

/-- The keys and values of a hash up to its end. -/
def pairsWithin : Nat → List Token → Reading ((List Node × List Node) × List Token)
  | 0, _ => .error .tokensEnd
  | _ + 1, [] => .error .tokensEnd
  | steps + 1, token :: rest =>
    if token.kind = .braceClose then .ok (([], []), rest)
    else do
      -- A key is one token, and never an expression.
      let (key, rest) ← hashKey (token :: rest)
      let rest ← expect .colon rest
      let (value, rest) ← expressionWithin steps rest
      let rest ← separator .braceClose .hashSeparator rest
      let ((keys, values), rest) ← pairsWithin steps rest
      .ok ((key :: keys, value :: values), rest)

end

/-- An expression; three steps a token are enough. -/
def expression (tokens : List Token) : Reading (Node × List Token) :=
  expressionWithin (3 * tokens.length + 3) tokens

/-- Whether the word that cuts off the caller's context stands next. -/
def onlyWord : List Token → Reading (Bool × List Token)
  | [] => .error .tokensEnd
  | token :: rest => if token.isWord "only" then .ok (true, rest) else .ok (false, token :: rest)

/-- What follows the end of a tag. -/
def tagEnd (tag : String) : List Token → Reading (List Token)
  | [] => .error .tokensEnd
  | token :: rest =>
    if token.kind = .blockClose then .ok rest else refuse (.tagEnd tag) (token :: rest)

/-- The variant of a component, if a string stands next. -/
def variantName : List Token → Reading (Option String × List Token)
  | [] => .error .tokensEnd
  | token :: rest =>
    if token.kind = .string then .ok (some token.value, rest) else .ok (none, token :: rest)

/-- The data of a component tag, behind its word. -/
def componentData : List Token → Reading (Option Node × List Token)
  | [] => .error .tokensEnd
  | token :: rest =>
    if token.isWord "with" then
      match rest with
      | [] => .error .tokensEnd
      | first :: rest =>
        -- The word promises data, so the end of the tag is reported as missing data.
        if first.kind = .blockClose then refuse .missingData (first :: rest)
        else (expression (first :: rest)).map fun (data, rest) => (some data, rest)
    else .ok (none, token :: rest)

/-- The data of a view tag, which needs no word. -/
def viewData : List Token → Reading (Option Node × List Token)
  | [] => .error .tokensEnd
  | token :: rest =>
    -- A variable of that name cannot be the data of a view.
    if token.kind = .blockClose || token.isWord "only" then .ok (none, token :: rest)
    else (expression (token :: rest)).map fun (data, rest) => (some data, rest)

/-- A component tag behind its keyword. -/
def componentTag (position : Position) (tokens : List Token) : Reading (Node × List Token) := do
  -- The order of the parts is fixed, and each but the name may be left out.
  let (name, rest) ← expression tokens
  let (variant, rest) ← variantName rest
  let (data, rest) ← componentData rest
  let (only, rest) ← onlyWord rest
  let rest ← tagEnd "component" rest
  .ok (.component position name variant data only, rest)

/-- A view tag behind its keyword. -/
def viewTag (position : Position) (tokens : List Token) : Reading (Node × List Token) := do
  let (name, rest) ← expression tokens
  let (data, rest) ← viewData rest
  let (only, rest) ← onlyWord rest
  let rest ← tagEnd "view" rest
  -- A view is a component without a variant.
  .ok (.component position name none data only, rest)

/-- A block tag behind what opens it. -/
def blockTag : List Token → Reading (Node × List Token)
  | [] => .error .tokensEnd
  | keyword :: rest =>
    -- The keyword is looked at only after it is known to be a name.
    if keyword.kind ≠ .name then refuse .missingTagName (keyword :: rest)
    else if keyword.value = "component" then componentTag keyword.position rest
    else if keyword.value = "view" then viewTag keyword.position rest
    else refuse .unknownTag (keyword :: rest)

/-- An output tag behind what opens it. -/
def outputTag (position : Position) : List Token → Reading (Node × List Token)
  | [] => .error .tokensEnd
  | token :: rest =>
    -- An output without an expression is reported as empty.
    if token.kind = .outputClose then refuse .emptyOutput (token :: rest)
    else do
      let (value, rest) ← expression (token :: rest)
      let rest ← expect .outputClose rest
      .ok (.output position value, rest)

/-- One node of the body of a template. -/
def bodyNode (token : Token) (rest : List Token) : Reading (Node × List Token) :=
  match token.kind with
  | .data => .ok (.data token.position token.value, rest)
  | .outputOpen => outputTag token.position rest
  | .blockOpen => blockTag rest
  | _ => refuse .unexpectedToken (token :: rest)

/-- The body of a template up to the end of input. -/
def bodyWithin : Nat → List Token → Reading (List Node)
  | 0, _ => .error .tokensEnd
  | _ + 1, [] => .error .tokensEnd
  | steps + 1, token :: rest =>
    -- What stands behind the end of input is never looked at.
    if token.kind = .endOfInput then .ok []
    else do
      let (node, rest) ← bodyNode token rest
      let nodes ← bodyWithin steps rest
      .ok (node :: nodes)

/-- The template that tokens stand for; every node of its body takes at least one token. -/
def Node.ofTokens (tokens : List Token) : Reading Node :=
  (bodyWithin (tokens.length + 1) tokens).map (.template .start)

end Stencil
