import Stencil.Proofs.Grammar

/-! What is read from tokens is derived from them by the grammar. -/

namespace Stencil

/-- A name is derived as what it stands for. -/
theorem namedNode_derived {token : Token} (kind : token.kind = .name) :
    Derives [token] (.primary (namedNode token)) := by
  -- A name with the text of a word is that word.
  have word {text : String} (same : token.value = text) : token.isWord text := by
    simp [Token.isWord, kind, same]
  unfold namedNode
  split
  · rename_i same
    exact .wordTrue (word same)
  · rename_i same
    exact .wordFalse (word same)
  · rename_i same
    exact .wordNull (.inl (word same))
  · rename_i same
    exact .wordNull (.inr (word same))
  · -- Any other name is free.
    refine .name kind ?_
    simp only [constantWords, List.mem_cons, List.not_mem_nil, or_false, not_or]
    refine ⟨?_, ?_, ?_, ?_⟩ <;> assumption

/-- A key is read from the one token that it is. -/
theorem hashKey_derived {tokens rest : List Token} {key : Node}
    (read : hashKey tokens = .ok (key, rest)) :
    ∃ token, tokens = token :: rest ∧ token.KeyOf key := by
  -- The kind of the token tells which key it is, or that it is none.
  unfold hashKey at read
  split at read
  · cases read
  · rename_i token more
    split at read
    · rename_i kind
      cases read
      exact ⟨token, rfl, .word (.inl kind)⟩
    · rename_i kind
      cases read
      exact ⟨token, rfl, .word (.inr kind)⟩
    · rename_i kind
      -- An integer has to have a value as well.
      unfold integerConstant at read
      split at read
      · rename_i number found
        cases read
        exact ⟨token, rfl, .integer kind found⟩
      · cases read
    · cases read

/-- An expected token is there. -/
theorem expect_found {kind : TokenKind} {tokens rest : List Token}
    (read : expect kind tokens = .ok rest) :
    ∃ token, tokens = token :: rest ∧ token.kind = kind := by
  -- A reading that succeeds has found a token, and the token has the kind.
  unfold expect at read
  split at read
  · cases read
  · rename_i token more
    split at read
    · rename_i same
      cases read
      exact ⟨token, rfl, same⟩
    · cases read

/-- A separator is a comma, which is skipped, or the end, which is not. -/
theorem separator_found {close : TokenKind} {problem : ParseProblem} {tokens rest : List Token}
    (read : separator close problem tokens = .ok rest) :
    (∃ comma, tokens = comma :: rest ∧ comma.kind = .comma) ∨
      ∃ closing more, tokens = closing :: more ∧ closing.kind = close ∧ rest = tokens := by
  -- The comma is looked for first, and the end only after that.
  unfold separator at read
  split at read
  · cases read
  · rename_i token more
    split at read
    · rename_i comma
      cases read
      exact .inl ⟨token, rfl, comma⟩
    · split at read
      · rename_i closed
        cases read
        exact .inr ⟨token, more, rfl, closed, rfl⟩
      · cases read

/-- Members behind an expression make an expression with it. -/
theorem memberChain_derived {tokens rest : List Token} {object node : Node}
    (read : memberChain object tokens = .ok (node, rest)) {words : List Token}
    (found : Derives words (.expression object)) :
    ∃ more, tokens = more ++ rest ∧ Derives (words ++ more) (.expression node) := by
  -- The induction follows the chain, which takes a dot and a name at a time.
  induction object, tokens using memberChain.induct generalizing words with
  | case1 | case2 | case4 => simp [memberChain, *, refuse] at read
  -- What has been derived so far is the object of the next member.
  | case3 object dot dotted name others named ih =>
    simp only [memberChain, dotted, named, if_true] at read
    obtain ⟨more, same, derived⟩ := ih read (.member found dotted named)
    exact ⟨dot :: name :: more, by rw [same]; rfl, by simpa using derived⟩
  -- At any other token the chain is over.
  | case5 object token others other =>
    rw [memberChain.eq_def] at read
    simp only [other, if_false] at read
    cases read
    exact ⟨[], rfl, by simpa using found⟩

/-- What is read within so many steps is derived from the tokens that it takes. -/
structure ReadDerived (steps : Nat) : Prop where
  primary : ∀ {tokens rest node}, primaryWithin steps tokens = .ok (node, rest) →
    ∃ words, tokens = words ++ rest ∧ Derives words (.primary node)
  expression : ∀ {tokens rest node}, expressionWithin steps tokens = .ok (node, rest) →
    ∃ words, tokens = words ++ rest ∧ Derives words (.expression node)
  -- Items and pairs are read with their closer, which is no part of the phrase.
  items : ∀ {tokens rest nodes}, itemsWithin steps tokens = .ok (nodes, rest) →
    ∃ words closing, tokens = words ++ closing :: rest ∧ closing.kind = .bracketClose ∧
      Derives words (.items nodes)
  pairs : ∀ {tokens rest keys values}, pairsWithin steps tokens = .ok ((keys, values), rest) →
    ∃ words closing, tokens = words ++ closing :: rest ∧ closing.kind = .braceClose ∧
      Derives words (.pairs keys values)

/-- With no steps, nothing is read. -/
theorem readDerived_zero : ReadDerived 0 where
  -- Without steps nothing is read.
  primary read := by simp [primaryWithin] at read
  expression read := by simp [expressionWithin] at read
  items read := by simp [itemsWithin] at read
  pairs read := by simp [pairsWithin] at read

section

variable {steps : Nat} {tokens rest : List Token} {node : Node}

/-- An expression without members is derived if what is inside it is. -/
theorem primaryWithin_derived (derived : ReadDerived steps)
    (read : primaryWithin (steps + 1) tokens = .ok (node, rest)) :
    ∃ words, tokens = words ++ rest ∧ Derives words (.primary node) := by
  cases tokens with
  | nil => simp [primaryWithin] at read
  | cons token tokens =>
    simp only [primaryWithin] at read
    -- Each kind of token has a rule of its own.
    split at read
    · -- A text is its own constant.
      rename_i kind
      cases read
      exact ⟨[token], rfl, .string kind⟩
    · -- An integer is derived with the value that it was read as.
      rename_i kind
      unfold integerConstant at read
      split at read
      · rename_i number found
        cases read
        exact ⟨[token], rfl, .integer kind found⟩
      · cases read
    · -- So is a double.
      rename_i kind
      unfold floatConstant at read
      split at read
      · rename_i number found
        cases read
        exact ⟨[token], rfl, .float kind found⟩
      · cases read
    · -- A name is a constant or a variable.
      rename_i kind
      cases read
      exact ⟨[token], rfl, namedNode_derived kind⟩
    · -- A list takes its end from what is inside.
      rename_i kind
      obtain ⟨⟨items, others⟩, inner, same⟩ := bind_eq_ok.1 read
      cases same
      obtain ⟨words, closing, rfl, closed, found⟩ := derived.items inner
      exact ⟨token :: words ++ [closing], by simp, .list kind found closed⟩
    · -- So does a hash.
      rename_i kind
      obtain ⟨⟨⟨keys, values⟩, others⟩, inner, same⟩ := bind_eq_ok.1 read
      cases same
      obtain ⟨words, closing, rfl, closed, found⟩ := derived.pairs inner
      exact ⟨token :: words ++ [closing], by simp, .hash kind found closed⟩
    · -- No other kind of token starts an expression.
      cases read

/-- An expression is derived if the one that its members are asked of is. -/
theorem expressionWithin_derived (derived : ReadDerived steps)
    (read : expressionWithin (steps + 1) tokens = .ok (node, rest)) :
    ∃ words, tokens = words ++ rest ∧ Derives words (.expression node) := by
  simp only [expressionWithin] at read
  obtain ⟨⟨object, others⟩, first, chain⟩ := bind_eq_ok.1 read
  -- The members stand behind the primary that they are asked of.
  obtain ⟨words, rfl, found⟩ := derived.primary first
  obtain ⟨more, rfl, whole⟩ := memberChain_derived chain (.primary found)
  exact ⟨words ++ more, by simp, whole⟩

/-- At the end of a list, there are no items. -/
theorem itemsWithin_ended {closing : Token} (closed : closing.kind = .bracketClose)
    {nodes : List Node} (read : itemsWithin steps (closing :: tokens) = .ok (nodes, rest)) :
    nodes = [] ∧ rest = tokens := by
  -- Reading takes a step at least, and with it the end is seen.
  cases steps with
  | zero => simp [itemsWithin] at read
  | succ steps =>
    simp only [itemsWithin, closed, if_true] at read
    cases read
    exact ⟨rfl, rfl⟩

/-- At the end of a hash, there are no pairs. -/
theorem pairsWithin_ended {closing : Token} (closed : closing.kind = .braceClose)
    {keys values : List Node}
    (read : pairsWithin steps (closing :: tokens) = .ok ((keys, values), rest)) :
    keys = [] ∧ values = [] ∧ rest = tokens := by
  -- The closer is seen before any key is tried.
  cases steps with
  | zero => simp [pairsWithin] at read
  | succ steps =>
    simp only [pairsWithin, closed, if_true] at read
    cases read
    exact ⟨rfl, rfl, rfl⟩

/-- The items of a list are derived if the first one and the items behind it are. -/
theorem itemsWithin_derived (derived : ReadDerived steps) {nodes : List Node}
    (read : itemsWithin (steps + 1) tokens = .ok (nodes, rest)) :
    ∃ words closing, tokens = words ++ closing :: rest ∧ closing.kind = .bracketClose ∧
      Derives words (.items nodes) := by
  cases tokens with
  | nil => simp [itemsWithin] at read
  | cons token tokens =>
    simp only [itemsWithin] at read
    split at read
    · -- A list may end before any item, be it empty or behind a comma.
      rename_i closed
      cases read
      exact ⟨[], token, rfl, closed, .noItems⟩
    · -- Otherwise an item is read, then a separator, then the items that are left.
      obtain ⟨⟨item, behind⟩, first, more⟩ := bind_eq_ok.1 read
      obtain ⟨others, separated, further⟩ := bind_eq_ok.1 more
      obtain ⟨⟨items, left⟩, inner, same⟩ := bind_eq_ok.1 further
      cases same
      obtain ⟨words, start, found⟩ := derived.expression first
      obtain ⟨tail, closing, same, closed, list⟩ := derived.items inner
      rcases separator_found separated with ⟨comma, rfl, kind⟩ | ⟨ending, last, rfl, kind, rfl⟩
      · refine ⟨words ++ comma :: tail, closing, ?_, closed, .item found kind list⟩
        rw [start, same]
        simp
      · -- The end that was left standing is read now, with no item before it.
        obtain ⟨rfl, rfl⟩ := itemsWithin_ended kind inner
        exact ⟨words, ending, start, kind, .lastItem found⟩

/-- The pairs of a hash are derived if the first value and the pairs behind it are. -/
theorem pairsWithin_derived (derived : ReadDerived steps) {keys values : List Node}
    (read : pairsWithin (steps + 1) tokens = .ok ((keys, values), rest)) :
    ∃ words closing, tokens = words ++ closing :: rest ∧ closing.kind = .braceClose ∧
      Derives words (.pairs keys values) := by
  cases tokens with
  | nil => simp [pairsWithin] at read
  | cons token tokens =>
    simp only [pairsWithin] at read
    split at read
    · -- A hash may end before any pair.
      rename_i closed
      cases read
      exact ⟨[], token, rfl, closed, .noPairs⟩
    · -- Otherwise a key, a colon and a value are read, and then as in a list.
      obtain ⟨⟨key, behindKey⟩, keyRead, more⟩ := bind_eq_ok.1 read
      obtain ⟨behindColon, colonRead, more⟩ := bind_eq_ok.1 more
      obtain ⟨⟨value, behind⟩, first, more⟩ := bind_eq_ok.1 more
      obtain ⟨others, separated, further⟩ := bind_eq_ok.1 more
      obtain ⟨⟨⟨keys, values⟩, left⟩, inner, same⟩ := bind_eq_ok.1 further
      cases same
      obtain ⟨_, same, named⟩ := hashKey_derived keyRead
      cases same
      obtain ⟨colon, rfl, assigned⟩ := expect_found colonRead
      obtain ⟨words, rfl, found⟩ := derived.expression first
      obtain ⟨tail, closing, same, closed, hash⟩ := derived.pairs inner
      rcases separator_found separated with ⟨comma, rfl, kind⟩ | ⟨ending, last, rfl, kind, rfl⟩
      · refine ⟨token :: colon :: words ++ comma :: tail, closing, ?_, closed,
          .pair named assigned found kind hash⟩
        rw [same]
        simp
      · obtain ⟨rfl, rfl, rfl⟩ := pairsWithin_ended kind inner
        exact ⟨token :: colon :: words, ending, rfl, kind, .lastPair named assigned found⟩

/-- Whatever is read within some steps is derived. -/
theorem readDerived (steps : Nat) : ReadDerived steps := by
  -- Each step reads what has fewer steps inside.
  induction steps with
  | zero => exact readDerived_zero
  | succ steps ih =>
    exact ⟨primaryWithin_derived ih, expressionWithin_derived ih, itemsWithin_derived ih,
      pairsWithin_derived ih⟩

/-- An expression that is read is derived from the tokens that it takes. -/
theorem expression_derived (read : expression tokens = .ok (node, rest)) :
    ∃ words, tokens = words ++ rest ∧ Derives words (.expression node) :=
  -- The number of steps does not matter to what was read.
  (readDerived _).expression read

end

section

variable {tokens rest : List Token}

/-- A variant that is read is derived. -/
theorem variantName_derived {variant : Option String}
    (read : variantName tokens = .ok (variant, rest)) :
    ∃ words, tokens = words ++ rest ∧ DerivesVariant words variant := by
  -- The next token is a variant just if it is a string.
  unfold variantName at read
  split at read
  · cases read
  · rename_i token more
    split at read
    · rename_i kind
      cases read
      exact ⟨[token], rfl, .some kind⟩
    · cases read
      exact ⟨[], rfl, .none⟩

/-- Data of a component that is read is derived. -/
theorem componentData_derived {data : Option Node}
    (read : componentData tokens = .ok (data, rest)) :
    ∃ words, tokens = words ++ rest ∧ DerivesData words data := by
  -- Behind its word, data has to be there.
  unfold componentData at read
  split at read
  · cases read
  · rename_i keyword more
    split at read
    · rename_i named
      split at read
      · cases read
      · rename_i first others
        split at read
        · cases read
        · obtain ⟨⟨node, left⟩, found, result⟩ := map_eq_ok.1 read
          cases result
          obtain ⟨words, same, derived⟩ := expression_derived found
          exact ⟨keyword :: words, by rw [same]; rfl, .some named derived⟩
    · cases read
      exact ⟨[], rfl, .none⟩

/-- Data of a view that is read is derived. -/
theorem viewData_derived {data : Option Node} (read : viewData tokens = .ok (data, rest)) :
    ∃ words, tokens = words ++ rest ∧ DerivesViewData words data := by
  -- There is data unless the next token ends the tag or cuts off the context.
  unfold viewData at read
  split at read
  · cases read
  · rename_i token more
    split at read
    · cases read
      exact ⟨[], rfl, .none⟩
    · rename_i other
      obtain ⟨⟨node, left⟩, found, result⟩ := map_eq_ok.1 read
      cases result
      obtain ⟨words, same, derived⟩ := expression_derived found
      -- An expression takes its first token, which is not the word that may follow it.
      obtain ⟨first, tail, rfl, _, _⟩ := derived.starts
      cases same
      refine ⟨token :: tail, rfl, .some (fun named => ?_) derived⟩
      simp [named] at other

/-- The word that cuts off a context is derived if it is read. -/
theorem onlyWord_derived {only : Bool} (read : onlyWord tokens = .ok (only, rest)) :
    ∃ words, tokens = words ++ rest ∧ DerivesOnly words only := by
  -- The flag is one word, or it is missing and nothing is taken.
  unfold onlyWord at read
  split at read
  · cases read
  · rename_i token more
    split at read
    · rename_i named
      cases read
      exact ⟨[token], rfl, .present named⟩
    · cases read
      exact ⟨[], rfl, .absent⟩

/-- The end of a tag is there if it is read. -/
theorem tagEnd_found {tag : String} (read : tagEnd tag tokens = .ok rest) :
    ∃ token, tokens = token :: rest ∧ token.kind = .blockClose := by
  -- Anything but the closer is refused.
  unfold tagEnd at read
  split at read
  · cases read
  · rename_i token more
    split at read
    · rename_i closed
      cases read
      exact ⟨token, rfl, closed⟩
    · cases read

/-- A block tag that is read is derived, up to its end. -/
theorem blockTag_derived {node : Node} (read : blockTag tokens = .ok (node, rest)) :
    ∃ words closing, tokens = words ++ closing :: rest ∧ closing.kind = .blockClose ∧
      DerivesTag words node := by
  -- A tag starts with its name, which is one of two.
  unfold blockTag at read
  split at read
  · cases read
  · rename_i keyword behind
    split at read
    · cases read
    · rename_i kind
      simp only [ne_eq, Decidable.not_not] at kind
      split at read
      · rename_i called
        have named : keyword.isWord "component" := by simp [Token.isWord, kind, called]
        -- A component reads its four parts in order, and then the end of the tag.
        obtain ⟨⟨name, behindName⟩, nameRead, more⟩ := bind_eq_ok.1 read
        obtain ⟨⟨variant, behindVariant⟩, variantRead, more⟩ := bind_eq_ok.1 more
        obtain ⟨⟨data, behindData⟩, dataRead, more⟩ := bind_eq_ok.1 more
        obtain ⟨⟨only, behindOnly⟩, onlyRead, more⟩ := bind_eq_ok.1 more
        obtain ⟨left, ended, same⟩ := bind_eq_ok.1 more
        cases same
        obtain ⟨words, rfl, found⟩ := expression_derived nameRead
        obtain ⟨chosen, rfl, varied⟩ := variantName_derived variantRead
        obtain ⟨given, rfl, supplied⟩ := componentData_derived dataRead
        obtain ⟨cut, rfl, cutOff⟩ := onlyWord_derived onlyRead
        obtain ⟨closing, rfl, closed⟩ := tagEnd_found ended
        exact ⟨keyword :: (words ++ chosen ++ given ++ cut), closing, by simp, closed,
          .component named found varied supplied cutOff⟩
      · split at read
        · rename_i called
          have named : keyword.isWord "view" := by simp [Token.isWord, kind, called]
          -- A view reads three parts.
          obtain ⟨⟨name, behindName⟩, nameRead, more⟩ := bind_eq_ok.1 read
          obtain ⟨⟨data, behindData⟩, dataRead, more⟩ := bind_eq_ok.1 more
          obtain ⟨⟨only, behindOnly⟩, onlyRead, more⟩ := bind_eq_ok.1 more
          obtain ⟨left, ended, same⟩ := bind_eq_ok.1 more
          cases same
          obtain ⟨words, rfl, found⟩ := expression_derived nameRead
          obtain ⟨given, rfl, supplied⟩ := viewData_derived dataRead
          obtain ⟨cut, rfl, cutOff⟩ := onlyWord_derived onlyRead
          obtain ⟨closing, rfl, closed⟩ := tagEnd_found ended
          exact ⟨keyword :: (words ++ given ++ cut), closing, by simp, closed,
            .view named found supplied cutOff⟩
        · cases read

/-- A node of a body that is read is derived. -/
theorem bodyNode_derived {token : Token} {node : Node}
    (read : bodyNode token tokens = .ok (node, rest)) :
    ∃ words, token :: tokens = words ++ rest ∧ DerivesNode words node := by
  -- Text is its own node, and each kind of tag has its opening.
  unfold bodyNode at read
  split at read
  · rename_i kind
    cases read
    exact ⟨[token], rfl, .data kind⟩
  · rename_i opened
    cases tokens with
    | nil => cases read
    | cons first more =>
      simp only [outputTag] at read
      split at read
      · cases read
      · obtain ⟨⟨value, behind⟩, valueRead, more⟩ := bind_eq_ok.1 read
        obtain ⟨left, ended, same⟩ := bind_eq_ok.1 more
        cases same
        obtain ⟨words, same, found⟩ := expression_derived valueRead
        obtain ⟨closing, rfl, closed⟩ := expect_found ended
        exact ⟨token :: words ++ [closing], by rw [same]; simp, .output opened found closed⟩
  · rename_i opened
    obtain ⟨words, closing, rfl, closed, tag⟩ := blockTag_derived read
    exact ⟨token :: words ++ [closing], by simp, .block opened tag closed⟩
  · cases read

/-- A body that is read is derived from tokens up to the first end of input. -/
theorem bodyWithin_derived {steps : Nat} {nodes : List Node}
    (read : bodyWithin steps tokens = .ok nodes) :
    ∃ words left, tokens = words ++ left ∧ DerivesBody words nodes := by
  -- The induction is on the steps, one for each node and one for the end.
  induction steps generalizing tokens nodes with
  | zero => simp [bodyWithin] at read
  | succ steps ih =>
    cases tokens with
    | nil => simp [bodyWithin] at read
    | cons token tokens =>
      simp only [bodyWithin] at read
      split at read
      · rename_i kind
        cases read
        exact ⟨[token], tokens, rfl, .ended kind⟩
      · obtain ⟨⟨node, behind⟩, first, more⟩ := bind_eq_ok.1 read
        obtain ⟨others, inner, same⟩ := bind_eq_ok.1 more
        cases same
        obtain ⟨words, same, found⟩ := bodyNode_derived first
        obtain ⟨tail, left, rfl, body⟩ := ih inner
        exact ⟨words ++ tail, left, by rw [same]; simp, .node found body⟩

end

/-- What a phrase is as it is written. -/
def Phrase.IsWritten : Phrase → Prop
  | .primary node | .expression node => node.IsExpression
  | .items nodes => Node.AreExpressions nodes
  | .pairs keys values =>
    (∀ key ∈ keys, key.IsKey) ∧ Node.AreExpressions values ∧ keys.length = values.length

/-- The key of a hash is derived as it is written. -/
theorem Token.KeyOf.written {token : Token} {key : Node} (named : token.KeyOf key) : key.IsKey := by
  -- An integer is a key only if it could be read, and what was read is short.
  cases named with
  | word => trivial
  | integer _ read => exact isShort_readInteger read

/-- What is derived is as it is written. -/
theorem Derives.written {words : List Token} {phrase : Phrase} (derived : Derives words phrase) :
    phrase.IsWritten := by
  -- Most rules only pass on what their parts are.
  induction derived with
  | list _ _ _ ih | hash _ _ _ ih | primary _ ih | member _ _ _ ih => exact ih
  | lastItem _ ih => exact ⟨ih, trivial⟩
  | item _ _ _ ih ihOthers => exact ⟨ih, ihOthers⟩
  -- An integer is as short as one that is read has to be.
  | integer _ read => exact isShort_readInteger read
  | noPairs => exact ⟨by simp, trivial, rfl⟩
  | lastPair named _ _ ih => exact ⟨by simp [named.written], ⟨ih, trivial⟩, rfl⟩
  | pair named _ _ _ _ ih ihOthers =>
    obtain ⟨keys, values, paired⟩ := ihOthers
    refine ⟨fun key member => ?_, ⟨ih, values⟩, by simp [paired]⟩
    -- The first key has its own token, and the others their own derivation.
    rcases List.mem_cons.1 member with rfl | member
    · exact named.written
    · exact keys key member
  | _ => trivial

/-- The data of a component is derived as it is written. -/
theorem DerivesData.written {words : List Token} {data : Option Node}
    (supplied : DerivesData words data) : ∀ node ∈ data, node.IsExpression := by
  -- The data is a phrase of its own.
  intro node given
  cases supplied with
  | none => cases given
  | some _ found =>
    cases given
    exact found.written

/-- The data of a view is derived as it is written. -/
theorem DerivesViewData.written {words : List Token} {data : Option Node}
    (supplied : DerivesViewData words data) : ∀ node ∈ data, node.IsExpression := by
  -- The data is a phrase of its own here too.
  intro node given
  cases supplied with
  | none => cases given
  | some _ found =>
    cases given
    exact found.written

/-- A block tag is a component as it is written. -/
theorem DerivesTag.written {words : List Token} {node : Node} (tag : DerivesTag words node) :
    node.IsStatement := by
  -- Both tags make a component of a name and of data, each of which is an expression.
  cases tag with
  | component _ found _ supplied => exact ⟨found.written, supplied.written⟩
  | view _ found supplied => exact ⟨found.written, supplied.written⟩

/-- A node of a body is derived as it is written. -/
theorem DerivesNode.written {words : List Token} {node : Node} (found : DerivesNode words node) :
    node.IsStatement := by
  -- Text holds no phrase, an output holds one, and a block what its tag does.
  cases found with
  | data => trivial
  | output _ found => exact found.written
  | block _ tag => exact tag.written

/-- The nodes of a tree that is read are as they are written. -/
theorem ofTokens_written {tokens : List Token} {tree : Node}
    (read : Node.ofTokens tokens = .ok tree) : ∀ node ∈ tree.body, node.IsStatement := by
  -- The induction is on the nodes of the body.
  have written {words : List Token} {nodes : List Node} (body : DerivesBody words nodes) :
      ∀ node ∈ nodes, node.IsStatement := by
    induction body with
    | ended => simp
    | node found _ ih =>
      intro node member
      rcases List.mem_cons.1 member with rfl | member
      · exact found.written
      · exact ih node member
  obtain ⟨nodes, body, rfl⟩ := map_eq_ok.1 read
  obtain ⟨words, left, _, derived⟩ := bodyWithin_derived body
  exact written derived

/-- A source is read as a tree if it is cut into tokens, and these are read as the tree. -/
theorem readTemplate_tokens {name file : Option String} {source : String} {tree : Node} :
    readTemplate name file source = .ok tree ↔
      ∃ tokens, tokenize source = .ok tokens ∧ Node.ofTokens tokens = .ok tree := by
  -- The two stages succeed one after the other.
  constructor
  · intro read
    obtain ⟨tokens, cut, built⟩ := bind_eq_ok.1 read
    unfold readTokens at cut
    unfold readTree at built
    split at cut <;> cases cut
    split at built <;> cases built
    exact ⟨tokens, ‹_›, ‹_›⟩
  · rintro ⟨tokens, cut, made⟩
    simp only [readTemplate, readTokens, cut, ok_bind, readTree, made]

/-- The nodes of a source that is read are as they are written. -/
theorem readTemplate_written {name file : Option String} {source : String} {tree : Node}
    (read : readTemplate name file source = .ok tree) : ∀ node ∈ tree.body, node.IsStatement := by
  -- The nodes come from a derivation.
  obtain ⟨tokens, _, made⟩ := readTemplate_tokens.1 read
  exact ofTokens_written made

end Stencil
