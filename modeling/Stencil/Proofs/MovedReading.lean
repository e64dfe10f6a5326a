import Stencil.Proofs.MovedTrees

/-! Tokens at other places are read as trees at other places, or refused at the same token. -/

namespace Stencil

/-- A fault at a token that stands at another place. -/
def ParseFault.moved (move : Position → Position) (fault : ParseFault) : ParseFault :=
  { fault with token := fault.token.moved move }

/-- Why reading stops at other places; only a fault has one. -/
def ParseStop.moved (move : Position → Position) : ParseStop → ParseStop
  | .fault found => .fault (found.moved move)
  | .tokensEnd => .tokensEnd
  | .notInteger text => .notInteger text
  | .notFloat text => .notFloat text

section

variable {Meaning Other : Type}

/-- A reading at other places. -/
def Reading.moved (move : Position → Position) (change : Meaning → Meaning)
    (reading : Reading Meaning) : Reading Meaning :=
  (reading.map change).mapError (ParseStop.moved move)

/-- What is read, with the tokens behind it, at other places. -/
def movedWithRest (move : Position → Position) (change : Meaning → Meaning) :
    Meaning × List Token → Meaning × List Token :=
  Prod.map change (List.map (Token.moved move))

variable (move : Position → Position)

/-- Steps of reading one after another are moved one after another. -/
theorem Reading.moved_bind {reading : Reading Meaning} {change : Meaning → Meaning}
    {alter : Other → Other} {next follow : Meaning → Reading Other}
    (same : ∀ meaning, follow (change meaning) = (next meaning).moved move alter) :
    (reading.moved move change >>= follow) = Reading.moved move alter (reading >>= next) := by
  -- A step that stops has moved already, and the others follow the result.
  cases reading with
  | error stop => rfl
  | ok meaning => exact same meaning

/-- A result is changed behind the move as it is in front of it. -/
theorem Reading.moved_map {reading : Reading Meaning} {change : Meaning → Meaning}
    {alter : Other → Other} {make : Meaning → Other} {remake : Meaning → Other}
    (same : ∀ meaning, remake (change meaning) = alter (make meaning)) :
    (reading.moved move change).map remake = Reading.moved move alter (reading.map make) := by
  -- A stop is the same on both sides, and a meaning is changed in either order.
  cases reading with
  | error stop => rfl
  | ok meaning => exact congrArg Except.ok (same meaning)

/-- A choice between two readings is moved if both of them are. -/
theorem Reading.moved_ite {condition : Prop} [Decidable condition]
    {first second afterFirst afterSecond : Reading Meaning} {change : Meaning → Meaning}
    (chosen : condition → afterFirst = first.moved move change)
    (other : ¬ condition → afterSecond = second.moved move change) :
    (if condition then afterFirst else afterSecond) =
      Reading.moved move change (if condition then first else second) := by
  -- The condition is the same for both readings, so that they take the same branch.
  by_cases held : condition
  · simp only [if_pos held, chosen held]
  · simp only [if_neg held, other held]

end

section

variable (move : Position → Position)

/-- A moved token is the same word. -/
theorem Token.moved_isWord (token : Token) (word : String) :
    (token.moved move).isWord word = token.isWord word := rfl

/-- A moved token is of the same kind. -/
theorem Token.moved_kind (token : Token) : (token.moved move).kind = token.kind := rfl

/-- A token is refused at any place. -/
theorem refuse_moved {Meaning : Type} (change : Meaning → Meaning) (problem : ParseProblem)
    (tokens : List Token) : refuse problem (tokens.map (Token.moved move)) =
      (refuse problem tokens).moved move change := by
  -- The token that is refused is the first one, wherever it has been moved to.
  cases tokens with
  | nil => rfl
  | cons token rest => rfl

/-- A token is expected at any place. -/
theorem expect_moved (kind : TokenKind) (tokens : List Token) :
    expect kind (tokens.map (Token.moved move)) =
      (expect kind tokens).moved move (List.map (Token.moved move)) := by
  -- Tokens are told by their kinds, which no move changes.
  cases tokens with
  | nil => rfl
  | cons token rest =>
    simp only [List.map_cons, expect, Token.moved_kind]
    refine Reading.moved_ite move (fun _ => rfl) fun _ => ?_
    exact refuse_moved move _ (.expected kind) (token :: rest)

/-- An integer has its number at any place. -/
theorem integerConstant_moved (token : Token) : integerConstant (token.moved move) =
    (integerConstant token).moved move (Node.moved move) := by
  -- The number is read from the value of the token, and only its place is moved.
  simp only [integerConstant, Token.moved_value]
  split <;> rfl

/-- A float has its number at any place. -/
theorem floatConstant_moved (token : Token) : floatConstant (token.moved move) =
    (floatConstant token).moved move (Node.moved move) := by
  -- As for an integer, the value decides, and the place is carried along.
  simp only [floatConstant, Token.moved_value]
  split <;> rfl

/-- A name stands for the same at any place. -/
theorem namedNode_moved (token : Token) :
    namedNode (token.moved move) = (namedNode token).moved move := by
  -- Whether a name is a constant is told by its value.
  simp only [namedNode, Token.moved_value]
  split <;> rfl

/-- A key is read at any place. -/
theorem hashKey_moved (tokens : List Token) : hashKey (tokens.map (Token.moved move)) =
    (hashKey tokens).moved move (movedWithRest move (Node.moved move)) := by
  -- The kind of the first token says which key it is, or that it is none.
  cases tokens with
  | nil => rfl
  | cons token rest =>
    simp only [List.map_cons, hashKey, Token.moved_kind, Token.moved_value, Token.moved_position]
    split
    · rfl
    · rfl
    · rw [integerConstant_moved]
      exact Reading.moved_map move fun node => rfl
    · exact refuse_moved move _ .hashKey (token :: rest)

/-- Items are separated at any place. -/
theorem separator_moved (close : TokenKind) (problem : ParseProblem) (tokens : List Token) :
    separator close problem (tokens.map (Token.moved move)) =
      (separator close problem tokens).moved move (List.map (Token.moved move)) := by
  -- A comma is skipped and an end is left standing, both by their kinds.
  cases tokens with
  | nil => rfl
  | cons token rest =>
    simp only [List.map_cons, separator, Token.moved_kind]
    refine Reading.moved_ite move (fun _ => rfl) fun _ => ?_
    refine Reading.moved_ite move (fun _ => rfl) fun _ => ?_
    exact refuse_moved move _ problem (token :: rest)

/-- Members are read at any place. -/
theorem memberChain_moved (object : Node) (tokens : List Token) :
    memberChain (object.moved move) (tokens.map (Token.moved move)) =
      (memberChain object tokens).moved move (movedWithRest move (Node.moved move)) := by
  -- The induction follows the chain, which is as long at any place.
  induction object, tokens using memberChain.induct with
  | case1 object => simp only [List.map_nil, memberChain]; rfl
  | case2 object dot dotted =>
    simp only [List.map_cons, List.map_nil, memberChain, Token.moved_kind, dotted, if_true]
    rfl
  | case3 object dot dotted name rest named ih =>
    simp only [List.map_cons, memberChain, Token.moved_kind, dotted, named, if_true]
    rw [← ih]
    simp only [Node.moved, Node.moved_position, Token.moved_value]
  | case4 object dot dotted name rest other =>
    simp only [List.map_cons, memberChain, Token.moved_kind, dotted, other, if_true, if_false]
    exact refuse_moved move _ .missingMemberName (name :: rest)
  | case5 object token rest other =>
    rw [List.map_cons, memberChain.eq_def, memberChain.eq_def]
    simp only [Token.moved_kind, other, if_false]
    rfl

end

/-- Within so many steps, reading commutes with moving. -/
structure MovesWithin (move : Position → Position) (steps : Nat) : Prop where
  primary : ∀ tokens : List Token, primaryWithin steps (tokens.map (Token.moved move)) =
    (primaryWithin steps tokens).moved move (movedWithRest move (Node.moved move))
  expression : ∀ tokens : List Token, expressionWithin steps (tokens.map (Token.moved move)) =
    (expressionWithin steps tokens).moved move (movedWithRest move (Node.moved move))
  items : ∀ tokens : List Token, itemsWithin steps (tokens.map (Token.moved move)) =
    (itemsWithin steps tokens).moved move (movedWithRest move (List.map (Node.moved move)))
  pairs : ∀ tokens : List Token, pairsWithin steps (tokens.map (Token.moved move)) =
    (pairsWithin steps tokens).moved move (movedWithRest move
      (Prod.map (List.map (Node.moved move)) (List.map (Node.moved move))))

section

variable {move : Position → Position} {steps : Nat} (moves : MovesWithin move steps)

include moves

/-- An expression without members moves if what is inside it does. -/
theorem primaryWithin_moved (tokens : List Token) :
    primaryWithin (steps + 1) (tokens.map (Token.moved move)) =
      (primaryWithin (steps + 1) tokens).moved move (movedWithRest move (Node.moved move)) := by
  cases tokens with
  | nil => rfl
  | cons token rest =>
    simp only [List.map_cons, primaryWithin, Token.moved_kind, Token.moved_value,
      Token.moved_position]
    -- The cases are the kinds of the first token.
    split
    · rfl
    · rw [integerConstant_moved]
      exact Reading.moved_map move fun node => rfl
    · rw [floatConstant_moved]
      exact Reading.moved_map move fun node => rfl
    · rw [namedNode_moved]
      rfl
    · rw [moves.items]
      refine Reading.moved_bind move fun items => ?_
      simp only [← Node.allMoved_eq, movedWithRest, Prod.map]
      rfl
    · rw [moves.pairs]
      refine Reading.moved_bind move fun pairs => ?_
      simp only [← Node.allMoved_eq, movedWithRest, Prod.map]
      rfl
    · exact refuse_moved move _ .notAnExpression (token :: rest)

/-- An expression moves if the one that its members are asked of does. -/
theorem expressionWithin_moved (tokens : List Token) :
    expressionWithin (steps + 1) (tokens.map (Token.moved move)) =
      (expressionWithin (steps + 1) tokens).moved move (movedWithRest move (Node.moved move)) := by
  -- What stands in front of the members is read first, and then its members.
  simp only [expressionWithin, moves.primary]
  refine Reading.moved_bind move fun object => ?_
  exact memberChain_moved move object.1 object.2

/-- Items move if the first one and the items behind it do. -/
theorem itemsWithin_moved (tokens : List Token) :
    itemsWithin (steps + 1) (tokens.map (Token.moved move)) =
      (itemsWithin (steps + 1) tokens).moved move
        (movedWithRest move (List.map (Node.moved move))) := by
  -- An item is read, then what separates it, and then the items behind, each moved by itself.
  cases tokens with
  | nil => rfl
  | cons token rest =>
    have first := moves.expression (token :: rest)
    simp only [List.map_cons] at first
    simp only [List.map_cons, itemsWithin, Token.moved_kind]
    refine Reading.moved_ite move (fun _ => rfl) fun _ => ?_
    rw [first]
    refine Reading.moved_bind move fun item => ?_
    simp only [movedWithRest, Prod.map, separator_moved]
    refine Reading.moved_bind move fun others => ?_
    rw [moves.items]
    exact Reading.moved_bind move fun items => rfl

/-- Pairs move if the first value and the pairs behind it do. -/
theorem pairsWithin_moved (tokens : List Token) :
    pairsWithin (steps + 1) (tokens.map (Token.moved move)) =
      (pairsWithin (steps + 1) tokens).moved move (movedWithRest move
        (Prod.map (List.map (Node.moved move)) (List.map (Node.moved move)))) := by
  -- A pair is a key, a colon, a value and what separates it, and all are moved one by one.
  cases tokens with
  | nil => rfl
  | cons token rest =>
    have first := hashKey_moved move (token :: rest)
    simp only [List.map_cons] at first
    simp only [List.map_cons, pairsWithin, Token.moved_kind]
    refine Reading.moved_ite move (fun _ => rfl) fun _ => ?_
    rw [first]
    refine Reading.moved_bind move fun key => ?_
    simp only [movedWithRest, Prod.map, expect_moved]
    refine Reading.moved_bind move fun behind => ?_
    rw [moves.expression]
    refine Reading.moved_bind move fun value => ?_
    simp only [movedWithRest, Prod.map, separator_moved]
    refine Reading.moved_bind move fun others => ?_
    rw [moves.pairs]
    exact Reading.moved_bind move fun pairs => rfl

end

section

variable (move : Position → Position)

/-- Reading commutes with moving within any number of steps. -/
theorem movesWithin (steps : Nat) : MovesWithin move steps := by
  -- Each reading gives the steps but one to those inside it.
  induction steps with
  | zero => exact ⟨fun _ => rfl, fun _ => rfl, fun _ => rfl, fun _ => rfl⟩
  | succ steps ih =>
    exact ⟨primaryWithin_moved ih, expressionWithin_moved ih, itemsWithin_moved ih,
      pairsWithin_moved ih⟩

/-- An expression is read at any place. -/
theorem expression_moved (tokens : List Token) : expression (tokens.map (Token.moved move)) =
    (expression tokens).moved move (movedWithRest move (Node.moved move)) := by
  -- There are as many tokens as before, so that the same steps are enough.
  rw [expression, List.length_map]
  exact (movesWithin move _).expression tokens

/-- A variant is read at any place. -/
theorem variantName_moved (tokens : List Token) : variantName (tokens.map (Token.moved move)) =
    (variantName tokens).moved move (movedWithRest move id) := by
  -- Only a string is a variant, and a moved string is one too.
  cases tokens with
  | nil => rfl
  | cons token rest =>
    simp only [List.map_cons, variantName, Token.moved_kind, Token.moved_value]
    exact Reading.moved_ite move (fun _ => rfl) fun _ => rfl

/-- The word that cuts off a context is read at any place. -/
theorem onlyWord_moved (tokens : List Token) : onlyWord (tokens.map (Token.moved move)) =
    (onlyWord tokens).moved move (movedWithRest move id) := by
  -- Whether the word is there is told by kind and value.
  cases tokens with
  | nil => rfl
  | cons token rest =>
    simp only [List.map_cons, onlyWord, Token.moved_isWord]
    exact Reading.moved_ite move (fun _ => rfl) fun _ => rfl

/-- A tag ends at any place. -/
theorem tagEnd_moved (tag : String) (tokens : List Token) :
    tagEnd tag (tokens.map (Token.moved move)) =
      (tagEnd tag tokens).moved move (List.map (Token.moved move)) := by
  -- The end of a tag is told by its kind.
  cases tokens with
  | nil => rfl
  | cons token rest =>
    simp only [List.map_cons, tagEnd, Token.moved_kind]
    refine Reading.moved_ite move (fun _ => rfl) fun _ => ?_
    exact refuse_moved move _ (.tagEnd tag) (token :: rest)

/-- Data behind its word is read at any place. -/
theorem componentData_moved (tokens : List Token) :
    componentData (tokens.map (Token.moved move)) =
      (componentData tokens).moved move (movedWithRest move (Option.map (Node.moved move))) := by
  -- The word is looked at first, and the token behind it only if the word is there.
  cases tokens with
  | nil => rfl
  | cons token rest =>
    by_cases named : token.isWord "with" = true
    · cases rest with
      | nil => simp only [List.map_cons, List.map_nil, componentData, Token.moved_isWord, named,
          if_true]; rfl
      | cons first rest =>
        have given := expression_moved move (first :: rest)
        simp only [List.map_cons] at given
        simp only [List.map_cons, componentData, Token.moved_isWord, named, if_true,
          Token.moved_kind]
        refine Reading.moved_ite move (fun _ => ?_) fun _ => ?_
        · exact refuse_moved move _ .missingData (first :: rest)
        · rw [given]
          exact Reading.moved_map move fun node => rfl
    · rw [List.map_cons, componentData.eq_def, componentData.eq_def]
      simp only [Token.moved_isWord, named]
      rfl

/-- Data without a word is read at any place. -/
theorem viewData_moved (tokens : List Token) : viewData (tokens.map (Token.moved move)) =
    (viewData tokens).moved move (movedWithRest move (Option.map (Node.moved move))) := by
  -- Without a word the first token itself decides whether there is data.
  cases tokens with
  | nil => rfl
  | cons token rest =>
    have given := expression_moved move (token :: rest)
    simp only [List.map_cons] at given
    simp only [List.map_cons, viewData, Token.moved_isWord, Token.moved_kind]
    refine Reading.moved_ite move (fun _ => rfl) fun _ => ?_
    rw [given]
    exact Reading.moved_map move fun node => rfl

/-- A component tag is read at any place. -/
theorem componentTag_moved (position : Position) (tokens : List Token) :
    componentTag (move position) (tokens.map (Token.moved move)) =
      (componentTag position tokens).moved move (movedWithRest move (Node.moved move)) := by
  -- The parts of the tag are read in their order, and each of them is moved.
  simp only [componentTag, expression_moved]
  refine Reading.moved_bind move fun name => ?_
  simp only [movedWithRest, Prod.map, variantName_moved]
  refine Reading.moved_bind move fun variant => ?_
  simp only [movedWithRest, Prod.map, componentData_moved]
  refine Reading.moved_bind move fun data => ?_
  simp only [movedWithRest, Prod.map, onlyWord_moved]
  refine Reading.moved_bind move fun only => ?_
  simp only [Prod.map, tagEnd_moved]
  refine Reading.moved_bind move fun rest => ?_
  simp only [id, ← Node.moved_component]
  rfl

/-- A view tag is read at any place. -/
theorem viewTag_moved (position : Position) (tokens : List Token) :
    viewTag (move position) (tokens.map (Token.moved move)) =
      (viewTag position tokens).moved move (movedWithRest move (Node.moved move)) := by
  -- The parts are those of a component, but for the variant.
  simp only [viewTag, expression_moved]
  refine Reading.moved_bind move fun name => ?_
  simp only [movedWithRest, Prod.map, viewData_moved]
  refine Reading.moved_bind move fun data => ?_
  simp only [movedWithRest, Prod.map, onlyWord_moved]
  refine Reading.moved_bind move fun only => ?_
  simp only [Prod.map, tagEnd_moved]
  refine Reading.moved_bind move fun rest => ?_
  simp only [id, ← Node.moved_component]
  rfl

/-- A block tag is read at any place. -/
theorem blockTag_moved (tokens : List Token) : blockTag (tokens.map (Token.moved move)) =
    (blockTag tokens).moved move (movedWithRest move (Node.moved move)) := by
  -- The keyword is told by kind and value, in the order in which the reader asks.
  cases tokens with
  | nil => rfl
  | cons keyword rest =>
    simp only [List.map_cons, blockTag, Token.moved_kind, Token.moved_value, Token.moved_position]
    refine Reading.moved_ite move (fun _ => ?_) fun _ => Reading.moved_ite move (fun _ => ?_)
      fun _ => Reading.moved_ite move (fun _ => ?_) fun _ => ?_
    · exact refuse_moved move _ .missingTagName (keyword :: rest)
    · exact componentTag_moved move keyword.position rest
    · exact viewTag_moved move keyword.position rest
    · exact refuse_moved move _ .unknownTag (keyword :: rest)

/-- An output tag is read at any place. -/
theorem outputTag_moved (position : Position) (tokens : List Token) :
    outputTag (move position) (tokens.map (Token.moved move)) =
      (outputTag position tokens).moved move (movedWithRest move (Node.moved move)) := by
  -- An empty output is refused by its first token, and any other one is an expression and its end.
  cases tokens with
  | nil => rfl
  | cons token rest =>
    have inner := expression_moved move (token :: rest)
    simp only [List.map_cons] at inner
    simp only [List.map_cons, outputTag, Token.moved_kind]
    refine Reading.moved_ite move (fun _ => ?_) fun _ => ?_
    · exact refuse_moved move _ .emptyOutput (token :: rest)
    · rw [inner]
      refine Reading.moved_bind move fun value => ?_
      simp only [movedWithRest, Prod.map, expect_moved]
      exact Reading.moved_bind move fun rest => rfl

/-- A node of a body is read at any place. -/
theorem bodyNode_moved (token : Token) (rest : List Token) :
    bodyNode (token.moved move) (rest.map (Token.moved move)) =
      (bodyNode token rest).moved move (movedWithRest move (Node.moved move)) := by
  -- The kind of the first token says which node there is.
  simp only [bodyNode, Token.moved_kind, Token.moved_value, Token.moved_position]
  split
  · rfl
  · exact outputTag_moved move token.position rest
  · exact blockTag_moved move rest
  · exact refuse_moved move _ .unexpectedToken (token :: rest)

/-- A body is read at any place, within as many steps. -/
theorem bodyWithin_moved (steps : Nat) (tokens : List Token) :
    bodyWithin steps (tokens.map (Token.moved move)) =
      (bodyWithin steps tokens).moved move (List.map (Node.moved move)) := by
  -- The induction is on the steps, one for each node.
  induction steps generalizing tokens with
  | zero => rfl
  | succ steps ih =>
    cases tokens with
    | nil => rfl
    | cons token rest =>
      simp only [List.map_cons, bodyWithin, Token.moved_kind]
      refine Reading.moved_ite move (fun _ => rfl) fun _ => ?_
      rw [bodyNode_moved]
      refine Reading.moved_bind move fun node => ?_
      simp only [movedWithRest, Prod.map, ih]
      exact Reading.moved_bind move fun nodes => rfl

/-- Tokens at other places are read as the tree with its nodes there, or refused at the same token,
if the start stays where it is. -/
theorem ofTokens_moved (start : move .start = .start) (tokens : List Token) :
    Node.ofTokens (tokens.map (Token.moved move)) =
      (Node.ofTokens tokens).moved move (Node.moved move) := by
  -- The template itself stands at the start, which the move leaves where it is.
  simp only [Node.ofTokens, List.length_map, bodyWithin_moved]
  refine Reading.moved_map move fun nodes => ?_
  rw [Node.moved, start, Node.allMoved_eq]

end

end Stencil
