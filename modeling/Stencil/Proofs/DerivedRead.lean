import Stencil.Proofs.Grammar

/-! Tokens that the grammar derives are read, and as the tree that it derives. -/

namespace Stencil

/-- A name stands for a variable unless it is the word of a constant. -/
theorem namedNode_free {token : Token} (free : token.value ∉ constantWords) :
    namedNode token = .name token.position token.value := by
  -- Being free rules out each of the words that are matched first.
  simp only [constantWords, List.mem_cons, List.not_mem_nil, or_false, not_or] at free
  unfold namedNode
  split <;> simp_all

/-- The word of a truth value stands for it. -/
theorem namedNode_true {token : Token} (named : token.isWord "true") :
    namedNode token = .constant token.position (.bool true) := by
  -- The word is compared before it is taken for a name.
  simp [namedNode, Token.isWord_value named]

/-- The word of a truth value stands for it. -/
theorem namedNode_false {token : Token} (named : token.isWord "false") :
    namedNode token = .constant token.position (.bool false) := by
  -- The word is compared before it is taken for a name.
  simp [namedNode, Token.isWord_value named]

/-- Both words for nothing stand for null. -/
theorem namedNode_null {token : Token} (named : token.isWord "none" ∨ token.isWord "null") :
    namedNode token = .constant token.position .null := by
  -- Both words stand for the same constant.
  rcases named with named | named
  · simp [namedNode, Token.isWord_value named]
  · simp [namedNode, Token.isWord_value named]

/-- The key of a hash is read from its token. -/
theorem hashKey_of {token : Token} {key : Node} (named : token.KeyOf key) (rest : List Token) :
    hashKey (token :: rest) = .ok (key, rest) := by
  -- Names and texts are taken as they stand, and integers are read.
  cases named with
  | word kind => rcases kind with kind | kind <;> simp [hashKey, kind]
  | integer kind read => simp [hashKey, kind, integerConstant, read]

/-- The token of a key is of no other kind than it. -/
theorem Token.KeyOf.kind {token : Token} {key : Node} (named : token.KeyOf key) :
    token.kind = .name ∨ token.kind = .string ∨ token.kind = .integer := by
  -- A key is a word or an integer.
  cases named with
  | word kind => exact kind.elim .inl fun kind => .inr (.inl kind)
  | integer kind => exact .inr (.inr kind)

/-- Members end before any token that is no dot. -/
theorem memberChain_stop (object : Node) {token : Token} (other : token.kind ≠ .dot)
    (rest : List Token) : memberChain object (token :: rest) = .ok (object, token :: rest) := by
  -- The chain goes on only at a dot.
  rw [memberChain.eq_def]
  simp [other]

/-- How a phrase is read from its tokens, given three steps for each of them. -/
def Phrase.IsRead : Phrase → List Token → Prop
  -- Three steps for each token are enough: one each for a primary, its expression and its item.
  | .primary node, words => ∀ steps rest, 3 * words.length ≤ steps + 1 →
    primaryWithin steps (words ++ rest) = .ok (node, rest)
  | .expression node, words => ∀ steps rest, 3 * words.length ≤ steps →
    expressionWithin steps (words ++ rest) = memberChain node rest
  -- Items and pairs are read with the closer that ends them.
  | .items nodes, words => ∀ steps closing rest, closing.kind = .bracketClose →
    3 * words.length < steps →
    itemsWithin steps (words ++ closing :: rest) = .ok (nodes, rest)
  | .pairs keys values, words => ∀ steps closing rest, closing.kind = .braceClose →
    3 * words.length < steps →
    pairsWithin steps (words ++ closing :: rest) = .ok ((keys, values), rest)

/-- An item is read up to the comma or the end behind it, and then the items that are left. -/
theorem itemsWithin_item {words : List Token} {node : Node}
    (found : Derives words (.expression node)) {steps : Nat} {token : Token} {rest : List Token}
    (read : expressionWithin steps (words ++ token :: rest) = .ok (node, token :: rest))
    {others : List Token}
    (separated : separator .bracketClose .listSeparator (token :: rest) = .ok others) :
    itemsWithin (steps + 1) (words ++ token :: rest) = (do
      let (nodes, rest) ← itemsWithin steps others
      .ok (node :: nodes, rest)) := by
  -- The first token of an expression never ends a list.
  obtain ⟨first, tail, same, kind, _⟩ := found.starts
  have opens : first.kind ≠ .bracketClose := ne_of_mem_of_not_mem kind (by decide)
  rw [same, List.cons_append] at read ⊢
  simp only [itemsWithin, opens, if_false, read, separated, ok_bind]

/-- A pair is read up to the comma or the end behind it, and then the pairs that are left. -/
theorem pairsWithin_pair {key colon : Token} {name : Node} (named : key.KeyOf name)
    (assigned : colon.kind = .colon) {steps : Nat} {words : List Token} {node : Node}
    {token : Token} {rest : List Token}
    (read : expressionWithin steps (words ++ token :: rest) = .ok (node, token :: rest))
    {others : List Token}
    (separated : separator .braceClose .hashSeparator (token :: rest) = .ok others) :
    pairsWithin (steps + 1) (key :: colon :: words ++ token :: rest) = (do
      let ((keys, values), rest) ← pairsWithin steps others
      .ok ((name :: keys, node :: values), rest)) := by
  -- The token of a key never ends a hash.
  have opens : key.kind ≠ .braceClose := by
    intro closes
    rcases named.kind with kind | kind | kind <;> rw [closes] at kind <;> cases kind
  -- The colon behind the key is taken as well.
  have assign (more : List Token) : expect .colon (colon :: more) = .ok more := by
    simp [expect, assigned]
  simp only [List.cons_append, pairsWithin, opens, if_false, hashKey_of named, assign, read,
    separated, ok_bind]

/-- A token that is an expression by itself is read in one step. -/
theorem Phrase.isRead_token {token : Token} {node : Node}
    (read : ∀ steps rest, primaryWithin (steps + 1) (token :: rest) = .ok (node, rest)) :
    (Phrase.primary node).IsRead [token] := by
  intro steps rest enough
  -- One token leaves at least one step for itself.
  obtain ⟨steps, rfl⟩ : ∃ fewer, steps = fewer + 1 := ⟨steps - 1, by simp at enough; omega⟩
  exact read steps rest

/-- What is derived from a phrase is read as it. -/
theorem Derives.isRead {words : List Token} {phrase : Phrase} (derived : Derives words phrase) :
    phrase.IsRead words := by
  -- The induction is on the derivation, with one step of reading for each rule.
  induction derived with
  | string kind => exact Phrase.isRead_token fun steps rest => by simp [primaryWithin, kind]
  | integer kind read =>
    exact Phrase.isRead_token fun steps rest => by
      simp [primaryWithin, kind, integerConstant, read]
  | float kind read =>
    exact Phrase.isRead_token fun steps rest => by simp [primaryWithin, kind, floatConstant, read]
  | wordTrue named =>
    exact Phrase.isRead_token fun steps rest => by
      simp [primaryWithin, Token.isWord_kind named, namedNode_true named]
  | wordFalse named =>
    exact Phrase.isRead_token fun steps rest => by
      simp [primaryWithin, Token.isWord_kind named, namedNode_false named]
  | wordNull named =>
    have kind := named.elim Token.isWord_kind Token.isWord_kind
    exact Phrase.isRead_token fun steps rest => by
      simp [primaryWithin, kind, namedNode_null named]
  | name kind free =>
    exact Phrase.isRead_token fun steps rest => by
      simp [primaryWithin, kind, namedNode_free free]
  -- A list and a hash give the step for their first token to what they hold.
  | list opened items closed ih =>
    intro steps rest enough
    simp only [List.length_append, List.length_cons, List.length_nil] at enough
    obtain ⟨steps, rfl⟩ : ∃ fewer, steps = fewer + 1 := ⟨steps - 1, by omega⟩
    have inner := ih steps _ rest closed (by omega)
    simp [primaryWithin, opened, inner]
  | hash opened pairs closed ih =>
    intro steps rest enough
    simp only [List.length_append, List.length_cons, List.length_nil] at enough
    obtain ⟨steps, rfl⟩ : ∃ fewer, steps = fewer + 1 := ⟨steps - 1, by omega⟩
    have inner := ih steps _ rest closed (by omega)
    simp [primaryWithin, opened, inner]
  -- A primary takes one step less than an expression of the same tokens.
  | primary found ih =>
    intro steps rest enough
    obtain ⟨first, tail, same, _, _⟩ := found.starts
    have positive : 0 < steps := by simp [same] at enough; omega
    obtain ⟨steps, rfl⟩ : ∃ fewer, steps = fewer + 1 := ⟨steps - 1, by omega⟩
    simp only [expressionWithin, ih steps rest (by omega), ok_bind]
  -- A member is read where the chain of its object goes on.
  | member found dotted named ih =>
    intro steps rest enough
    simp only [List.length_append, List.length_cons, List.length_nil] at enough
    rw [List.append_assoc, ih steps _ (by omega)]
    simp [memberChain, dotted, named]
  -- Without items the end is next.
  | noItems =>
    intro steps closing rest closed enough
    obtain ⟨steps, rfl⟩ : ∃ fewer, steps = fewer + 1 := ⟨steps - 1, by simp at enough; omega⟩
    simp [itemsWithin, closed]
  | lastItem found ih =>
    intro steps closing rest closed enough
    obtain ⟨steps, rfl⟩ : ∃ fewer, steps = fewer + 1 := ⟨steps - 1, by omega⟩
    obtain ⟨first, tail, same, _, _⟩ := found.starts
    have positive : 0 < steps := by simp [same] at enough; omega
    have read := ih steps (closing :: rest) (by omega)
    rw [memberChain_stop _ (by simp [closed])] at read
    -- The end is left standing behind the last item, and one more step takes it.
    have separated : separator .bracketClose .listSeparator (closing :: rest) =
        .ok (closing :: rest) := by simp [separator, closed]
    obtain ⟨steps, rfl⟩ : ∃ fewer, steps = fewer + 1 := ⟨steps - 1, by omega⟩
    rw [itemsWithin_item found read separated]
    simp [itemsWithin, closed]
  -- An item and its comma are taken, and the items behind them by the hypothesis.
  | @item words others comma node nodes found separated more ih ihOthers =>
    intro steps closing rest closed enough
    simp only [List.length_append, List.length_cons] at enough
    obtain ⟨steps, rfl⟩ : ∃ fewer, steps = fewer + 1 := ⟨steps - 1, by omega⟩
    have read := ih steps (comma :: (others ++ closing :: rest)) (by omega)
    rw [memberChain_stop _ (by simp [separated])] at read
    have skipped : separator .bracketClose .listSeparator (comma :: (others ++ closing :: rest)) =
        .ok (others ++ closing :: rest) := by simp [separator, separated]
    rw [List.append_assoc, List.cons_append, itemsWithin_item found read skipped,
      ihOthers steps closing rest closed (by omega)]
    rfl
  -- Pairs are read as items are, but with a key and a colon in front.
  | noPairs =>
    intro steps closing rest closed enough
    obtain ⟨steps, rfl⟩ : ∃ fewer, steps = fewer + 1 := ⟨steps - 1, by simp at enough; omega⟩
    simp [pairsWithin, closed]
  | lastPair named assigned found ih =>
    intro steps closing rest closed enough
    simp only [List.length_cons] at enough
    obtain ⟨steps, rfl⟩ : ∃ fewer, steps = fewer + 2 := ⟨steps - 2, by omega⟩
    have read := ih (steps + 1) (closing :: rest) (by omega)
    rw [memberChain_stop _ (by simp [closed])] at read
    have separated : separator .braceClose .hashSeparator (closing :: rest) =
        .ok (closing :: rest) := by simp [separator, closed]
    rw [pairsWithin_pair named assigned read separated]
    simp [pairsWithin, closed]
  | @pair key colon comma words others _ _ _ _ named assigned found separated more ih ihOthers =>
    intro steps closing rest closed enough
    simp only [List.length_append, List.length_cons] at enough
    obtain ⟨steps, rfl⟩ : ∃ fewer, steps = fewer + 1 := ⟨steps - 1, by omega⟩
    have read := ih steps (comma :: (others ++ closing :: rest)) (by omega)
    rw [memberChain_stop _ (by simp [separated])] at read
    have skipped : separator .braceClose .hashSeparator (comma :: (others ++ closing :: rest)) =
        .ok (others ++ closing :: rest) := by simp [separator, separated]
    rw [List.append_assoc]
    exact (pairsWithin_pair named assigned read skipped).trans (by
      rw [ihOthers steps closing rest closed (by omega)]
      rfl)

/-- An expression is read up to any token that is no dot. -/
theorem expression_read {words : List Token} {node : Node}
    (found : Derives words (.expression node)) {token : Token} (other : token.kind ≠ .dot)
    (rest : List Token) : expression (words ++ token :: rest) = .ok (node, token :: rest) := by
  -- The steps of a reading are three for each token that is left, and a few to spare.
  have read := found.isRead (3 * (words ++ token :: rest).length + 3) (token :: rest)
    (by simp only [List.length_append]; omega)
  rw [expression, read, memberChain_stop node other]

/-- The kinds of token that may follow an expression in a tag. -/
def tagParts : List TokenKind :=
  [.string, .name, .blockClose] ++ expressionStarts

/-- No part of a tag starts with a dot. -/
theorem tagParts_ne_dot {kind : TokenKind} (part : kind ∈ tagParts) : kind ≠ .dot := by
  -- A dot is neither a start of an expression nor a part of a tag.
  rintro rfl
  simp [tagParts, expressionStarts] at part

/-- What follows the data of a component is the word that cuts it off, or the end of the tag. -/
theorem DerivesOnly.read {cut : List Token} {only : Bool} (ended : DerivesOnly cut only)
    {closing : Token} (closed : closing.kind = .blockClose) (rest : List Token) :
    ∃ token more, cut ++ closing :: rest = token :: more ∧ token.kind ∈ tagParts ∧
      (token.kind = .blockClose ∨ token.isWord "only") ∧
      onlyWord (token :: more) = .ok (only, closing :: rest) := by
  -- Without the word it is the end of the tag that follows.
  cases ended with
  | absent =>
    refine ⟨closing, rest, rfl, by simp [closed, tagParts], .inl closed, ?_⟩
    simp [onlyWord, Token.isWord, closed]
  | @present token named =>
    refine ⟨token, _, rfl, by simp [Token.isWord_kind named, tagParts], .inr named, ?_⟩
    simp [onlyWord, named]

/-- A token that may follow the data of a component starts no data, and is no variant. -/
theorem afterData {token : Token} (after : token.kind = .blockClose ∨ token.isWord "only") :
    token.isWord "with" = false ∧ token.kind ≠ .string := by
  -- One is no name, and the other is a different word.
  rcases after with closed | named
  · simp [Token.isWord, closed]
  · simp [Token.isWord, Token.isWord_kind named, Token.isWord_value named]

/-- The data of a component is read up to what may follow it. -/
theorem DerivesData.read {given : List Token} {data : Option Node}
    (supplied : DerivesData given data) {token : Token} (part : token.kind ∈ tagParts)
    (after : token.kind = .blockClose ∨ token.isWord "only") (rest : List Token) :
    ∃ first more, given ++ token :: rest = first :: more ∧ first.kind ∈ tagParts ∧
      first.kind ≠ .string ∧ componentData (first :: more) = .ok (data, token :: rest) := by
  -- Without data the token behind it comes next, and is not its word.
  cases supplied with
  | none =>
    refine ⟨token, rest, rfl, part, (afterData after).2, ?_⟩
    simp [componentData, (afterData after).1]
  | @some keyword words node named found =>
    have kind := Token.isWord_kind named
    refine ⟨keyword, words ++ token :: rest, rfl, by simp [kind, tagParts], by simp [kind], ?_⟩
    obtain ⟨first, tail, same, starts, _⟩ := found.starts
    -- With data an expression follows, so that the tag does not end at the word.
    have opens : first.kind ≠ .blockClose := ne_of_mem_of_not_mem starts (by decide)
    have read := expression_read found (tagParts_ne_dot part) rest
    rw [same, List.cons_append] at read ⊢
    simp [componentData, named, opens, read]

/-- The data of a view is read up to what may follow it. -/
theorem DerivesViewData.read {given : List Token} {data : Option Node}
    (supplied : DerivesViewData given data) {token : Token} (part : token.kind ∈ tagParts)
    (after : token.kind = .blockClose ∨ token.isWord "only") (rest : List Token) :
    ∃ first more, given ++ token :: rest = first :: more ∧ first.kind ∈ tagParts ∧
      viewData (first :: more) = .ok (data, token :: rest) := by
  -- A view has no word for its data, so the next token has to tell.
  cases supplied with
  | none =>
    refine ⟨token, rest, rfl, part, ?_⟩
    rcases after with closed | named
    · simp [viewData, closed]
    · simp [viewData, named]
  | @some first words node other found =>
    obtain ⟨_, _, same, starts, _⟩ := found.starts
    cases same
    -- An expression never starts with the end of a tag.
    have opens : first.kind ≠ .blockClose := ne_of_mem_of_not_mem starts (by decide)
    refine ⟨first, words ++ token :: rest, rfl, by simp [tagParts, starts], ?_⟩
    have read := expression_read found (tagParts_ne_dot part) rest
    rw [List.cons_append] at read
    simp [viewData, opens, other, read]

/-- The variant of a component is read up to what may follow it. -/
theorem DerivesVariant.read {chosen : List Token} {variant : Option String}
    (varied : DerivesVariant chosen variant) {token : Token} (part : token.kind ∈ tagParts)
    (other : token.kind ≠ .string) (rest : List Token) :
    ∃ first more, chosen ++ token :: rest = first :: more ∧ first.kind ∈ tagParts ∧
      variantName (first :: more) = .ok (variant, token :: rest) := by
  -- A string is taken as the variant. Any other token that may follow is left.
  cases varied with
  | none => exact ⟨token, rest, rfl, part, by simp [variantName, other]⟩
  | @some first kind => exact ⟨first, _, rfl, by simp [kind, tagParts], by simp [variantName, kind]⟩

/-- A block tag is read with its end. -/
theorem DerivesTag.read {words : List Token} {node : Node} (tag : DerivesTag words node)
    {closing : Token} (closed : closing.kind = .blockClose) (rest : List Token) :
    blockTag (words ++ closing :: rest) = .ok (node, rest) := by
  have tagged (tag : String) : tagEnd tag (closing :: rest) = .ok rest := by
    simp [tagEnd, closed]
  cases tag with
  | @component keyword called chosen given cut name variant data only named found varied supplied
      ended =>
    -- The parts are looked at from the last one, as each ends where the next one starts.
    obtain ⟨third, afterThird, sameThird, partThird, after, readOnly⟩ := ended.read closed rest
    obtain ⟨second, afterSecond, sameSecond, partSecond, other, readData⟩ :=
      supplied.read partThird after afterThird
    obtain ⟨first, afterFirst, sameFirst, partFirst, readVariant⟩ :=
      varied.read partSecond other afterSecond
    have readName := expression_read found (tagParts_ne_dot partFirst) afterFirst
    simp only [List.cons_append, List.append_assoc, sameThird, sameSecond, sameFirst, blockTag,
      Token.isWord_kind named, Token.isWord_value named, ne_eq, not_true_eq_false, if_false,
      if_true, componentTag, readName, readVariant, readData, readOnly, tagged, ok_bind]
  -- A view has no variant, so one part less stands in between.
  | @view keyword called given cut name data only named found supplied ended =>
    obtain ⟨second, afterSecond, sameSecond, partSecond, after, readOnly⟩ := ended.read closed rest
    obtain ⟨first, afterFirst, sameFirst, partFirst, readData⟩ :=
      supplied.read partSecond after afterSecond
    have readName := expression_read found (tagParts_ne_dot partFirst) afterFirst
    have view : ¬ "view" = "component" := by decide
    simp only [List.cons_append, List.append_assoc, sameSecond, sameFirst, blockTag,
      Token.isWord_kind named, Token.isWord_value named, ne_eq, not_true_eq_false, if_false,
      if_true, view, viewTag, readName, readData, readOnly, tagged, ok_bind]

/-- A node of a body is read from the token that it starts with. -/
theorem DerivesNode.read {words : List Token} {node : Node} (found : DerivesNode words node)
    (rest : List Token) :
    ∃ token more, words ++ rest = token :: more ∧ token.kind ≠ .endOfInput ∧
      bodyNode token more = .ok (node, rest) := by
  -- The kind of the first token tells the three apart.
  cases found with
  | @data token kind =>
    exact ⟨token, rest, rfl, by simp [kind], by simp [bodyNode, kind]⟩
  | @output opening closing inner node opened found closed =>
    refine ⟨opening, inner ++ closing :: rest, by simp, by simp [opened], ?_⟩
    obtain ⟨first, tail, same, starts, _⟩ := found.starts
    -- An output is never empty.
    have value : first.kind ≠ .outputClose := ne_of_mem_of_not_mem starts (by decide)
    have read := expression_read found (by simp [closed] : closing.kind ≠ .dot) rest
    rw [same, List.cons_append] at read ⊢
    simp [bodyNode, opened, outputTag, value, read, expect, closed]
  | @block opening closing inner node opened tag closed =>
    refine ⟨opening, inner ++ closing :: rest, by simp, by simp [opened], ?_⟩
    simp [bodyNode, opened, tag.read closed rest]

/-- A body is read up to the end of input. -/
theorem DerivesBody.read {tokens : List Token} {nodes : List Node}
    (body : DerivesBody tokens nodes) {steps : Nat} (enough : tokens.length ≤ steps) :
    bodyWithin steps tokens = .ok nodes := by
  -- The induction is on the nodes, and each of them takes one step.
  induction body generalizing steps with
  | ended kind =>
    obtain ⟨steps, rfl⟩ : ∃ fewer, steps = fewer + 1 := ⟨steps - 1, by simp at enough; omega⟩
    simp [bodyWithin, kind]
  | @node words others node nodes found body ih =>
    obtain ⟨token, more, same, kind, read⟩ := found.read others
    have positive : 0 < steps := by
      simp only [same, List.length_cons] at enough
      omega
    obtain ⟨steps, rfl⟩ : ∃ fewer, steps = fewer + 1 := ⟨steps - 1, by omega⟩
    -- Each node takes a token at least, so that the steps that are left are enough.
    have shorter : others.length ≤ steps := by
      have taken : 0 < words.length := by
        cases found <;> simp
      simp only [List.length_append] at enough
      omega
    rw [same, bodyWithin]
    simp [kind, read, ih shorter]

/-- A template is read from its tokens. -/
theorem DerivesTemplate.read {tokens : List Token} {tree : Node}
    (derived : DerivesTemplate tokens tree) : Node.ofTokens tokens = .ok tree := by
  cases derived with
  -- There are as many steps as tokens, and one more.
  | template body =>
    simp only [Node.ofTokens, body.read (Nat.le_succ _), map_ok]
    rfl

end Stencil
