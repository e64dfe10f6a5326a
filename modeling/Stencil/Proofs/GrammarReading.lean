import Stencil.Proofs.OffendingToken

/-! Tokens are read as a template exactly when the grammar derives them; else one is at fault. -/

namespace Stencil

/-- A token that is a number if its kind says so. -/
def Token.IsNumeric (token : Token) : Prop :=
  (token.kind = .integer → (readInteger? token.value).isSome) ∧
    (token.kind = .float → (readDouble? token.value).isSome)

/-- The end of input is the last token, and no other one. -/
def EndsOnce (tokens : List Token) : Prop :=
  ∃ front token, tokens = front ++ [token] ∧ token.kind = .endOfInput ∧
    ∀ other ∈ front, other.kind ≠ .endOfInput

/-- Tokens up to the end of input. -/
def Ready (tokens : List Token) : Prop :=
  ∃ front token, tokens = front ++ [token] ∧ token.kind = .endOfInput

/-- Reading comes to a good result, or stops at one of the tokens. -/
def Settles {Meaning : Type} (good : Meaning → Prop) : Reading Meaning → Prop
  | .ok meaning => good meaning
  | .error stop => stop ≠ .tokensEnd

/-- A result with fewer than so many tokens behind it, up to the end of input. -/
def Leaves {Meaning : Type} (bound : Nat) (result : Meaning × List Token) : Prop :=
  Ready result.2 ∧ result.2.length < bound

section

variable {Meaning Other : Type} {good : Meaning → Prop} {fine : Other → Prop}
  {outcome : Reading Meaning}

/-- Steps of reading settle one after another. -/
theorem Settles.bind (settled : Settles good outcome) {next : Meaning → Reading Other}
    (then' : ∀ meaning, good meaning → Settles fine (next meaning)) :
    Settles fine (outcome >>= next) := by
  -- The first step to stop does so for both.
  cases outcome with
  | error stop => exact settled
  | ok meaning => exact then' meaning settled

/-- A result may be changed where it is settled. -/
theorem Settles.map (settled : Settles good outcome) {change : Meaning → Other}
    (keep : ∀ meaning, good meaning → fine (change meaning)) :
    Settles fine (outcome.map change) := by
  -- A stop stays what it is.
  cases outcome with
  | error stop => exact settled
  | ok meaning => exact keep meaning settled

/-- What is good in one way may be good in another. -/
theorem Settles.weaken {better : Meaning → Prop} (settled : Settles good outcome)
    (keep : ∀ meaning, good meaning → better meaning) : Settles better outcome := by
  -- Only what is said of the meaning changes.
  cases outcome with
  | error stop => exact settled
  | ok meaning => exact keep meaning settled

/-- Refusing a token stops at it. -/
theorem refuse_settles (problem : ParseProblem) (token : Token) (rest : List Token) :
    Settles good (refuse problem (token :: rest)) :=
  nofun

end

section

variable {tokens rest : List Token} {token : Token}

/-- There is a token up to the end of input. -/
theorem Ready.first (ready : Ready tokens) : ∃ token rest, tokens = token :: rest := by
  obtain ⟨front, token, rfl, _⟩ := ready
  -- The end of input is such a token, if there is no other.
  cases front with
  | nil => exact ⟨token, [], rfl⟩
  | cons first front => exact ⟨first, front ++ [token], rfl⟩

/-- Behind any other token, there is still the end of input. -/
theorem Ready.behind (ready : Ready (token :: rest)) (other : token.kind ≠ .endOfInput) :
    Ready rest := by
  obtain ⟨front, last, same, kind⟩ := ready
  -- The token would have to be the end of input if nothing stood before that.
  cases front with
  | nil =>
    cases same
    exact absurd kind other
  | cons first front =>
    cases same
    exact ⟨front, last, rfl, kind⟩

/-- An integer token settles: it has a number, or the reading stops at it. -/
theorem integerConstant_settles (token : Token) :
    Settles (fun _ => True) (integerConstant token) := by
  -- A number that cannot be read is no end of the tokens.
  unfold integerConstant
  split
  · trivial
  · exact nofun

/-- A float token settles in the same way. -/
theorem floatConstant_settles (token : Token) :
    Settles (fun _ => True) (floatConstant token) := by
  -- The same for a number with a point.
  unfold floatConstant
  split
  · trivial
  · exact nofun

/-- A key settles, and takes one token. -/
theorem hashKey_settles (ready : Ready tokens) :
    Settles (Leaves tokens.length) (hashKey tokens) := by
  obtain ⟨token, rest, rfl⟩ := ready.first
  simp only [hashKey]
  split
  · -- A name is taken as it stands.
    rename_i kind
    exact ⟨ready.behind (by simp [kind]), by simp⟩
  · -- So is a string.
    rename_i kind
    exact ⟨ready.behind (by simp [kind]), by simp⟩
  · -- An integer has a number, or stops the reading.
    rename_i kind
    refine (integerConstant_settles token).map ?_
    exact fun node _ => ⟨ready.behind (by simp [kind]), by simp⟩
  · -- Any other token is at fault.
    exact refuse_settles _ _ _

/-- An expected token settles, unless it would be the end of input. -/
theorem expect_settles (ready : Ready tokens) {kind : TokenKind} (other : kind ≠ .endOfInput) :
    Settles (fun rest => Ready rest ∧ rest.length < tokens.length) (expect kind tokens) := by
  obtain ⟨token, rest, rfl⟩ := ready.first
  simp only [expect]
  -- The token is the one that is expected, or it is at fault.
  split
  · rename_i same
    exact ⟨ready.behind (same ▸ other), by simp⟩
  · exact refuse_settles _ _ _

/-- A separator settles, and takes one token at most. -/
theorem separator_settles (ready : Ready tokens) (close : TokenKind) (problem : ParseProblem) :
    Settles (fun rest => Ready rest ∧ rest.length ≤ tokens.length)
      (separator close problem tokens) := by
  obtain ⟨token, rest, rfl⟩ := ready.first
  simp only [separator]
  -- A comma is taken, and the end of the list or the hash is left where it is.
  split
  · rename_i comma
    exact ⟨ready.behind (by simp [comma]), by simp⟩
  · split
    · exact ⟨ready, Nat.le_refl _⟩
    · exact refuse_settles _ _ _

/-- Members settle. -/
theorem memberChain_settles (object : Node) (ready : Ready tokens) :
    Settles (Leaves (tokens.length + 1)) (memberChain object tokens) := by
  -- The induction follows the chain, and every member makes the tokens fewer by two.
  induction object, tokens using memberChain.induct with
  -- There always is a token, and behind a dot there still is one.
  | case1 =>
    obtain ⟨_, _, same⟩ := ready.first
    cases same
  | case2 object dot dotted =>
    obtain ⟨_, _, same⟩ := (ready.behind (by simp [dotted])).first
    cases same
  | case3 object dot dotted name others named ih =>
    have behind := (ready.behind (by simp [dotted])).behind (by simp [named])
    simp only [memberChain, dotted, named, if_true]
    exact (ih behind).weaken fun result left => ⟨left.1, by
      have shorter := left.2
      simp only [List.length_cons]
      omega⟩
  -- A dot has to be followed by a name.
  | case4 object dot dotted name others other =>
    simp only [memberChain, dotted, other, if_true, if_false]
    exact refuse_settles _ _ _
  -- At any other token the chain ends, with all of them left.
  | case5 object token others other =>
    rw [memberChain.eq_def]
    simp only [other, if_false]
    exact ⟨ready, by simp⟩

/-- Reading settles within so many steps, if there are three for each token. -/
structure SettlesWithin (steps : Nat) : Prop where
  -- The bounds are those of the reading: three steps for each token.
  primary : ∀ {tokens}, Ready tokens → 3 * tokens.length ≤ steps + 1 →
    Settles (Leaves tokens.length) (primaryWithin steps tokens)
  expression : ∀ {tokens}, Ready tokens → 3 * tokens.length ≤ steps →
    Settles (Leaves tokens.length) (expressionWithin steps tokens)
  items : ∀ {tokens}, Ready tokens → 3 * tokens.length < steps →
    Settles (Leaves tokens.length) (itemsWithin steps tokens)
  pairs : ∀ {tokens}, Ready tokens → 3 * tokens.length < steps →
    Settles (Leaves tokens.length) (pairsWithin steps tokens)

/-- With no steps, there are not three for each token. -/
theorem settlesWithin_zero : SettlesWithin 0 where
  -- Tokens that are ready are not empty, so some steps are left.
  primary ready enough := by
    obtain ⟨token, rest, rfl⟩ := ready.first
    simp only [List.length_cons] at enough
    omega
  expression ready enough := by
    obtain ⟨token, rest, rfl⟩ := ready.first
    simp only [List.length_cons] at enough
    omega
  items _ enough := by omega
  pairs _ enough := by omega

section

variable {steps : Nat} (settles : SettlesWithin steps)

include settles

/-- An expression without members settles if what is inside it does. -/
theorem primaryWithin_settles (ready : Ready tokens) (enough : 3 * tokens.length ≤ steps + 2) :
    Settles (Leaves tokens.length) (primaryWithin (steps + 1) tokens) := by
  obtain ⟨token, rest, rfl⟩ := ready.first
  simp only [List.length_cons] at enough
  simp only [primaryWithin]
  -- The cases are the kinds of the first token.
  split
  · rename_i kind
    exact ⟨ready.behind (by simp [kind]), by simp⟩
  · rename_i kind
    refine (integerConstant_settles token).map ?_
    exact fun node _ => ⟨ready.behind (by simp [kind]), by simp⟩
  · rename_i kind
    refine (floatConstant_settles token).map ?_
    exact fun node _ => ⟨ready.behind (by simp [kind]), by simp⟩
  · rename_i kind
    exact ⟨ready.behind (by simp [kind]), by simp⟩
  · -- What a list or a hash holds has a token less, and three steps for each are still left.
    rename_i kind
    refine (settles.items (ready.behind (by simp [kind])) (by omega)).bind fun result left => ?_
    exact ⟨left.1, Nat.lt_succ_of_lt left.2⟩
  · rename_i kind
    refine (settles.pairs (ready.behind (by simp [kind])) (by omega)).bind fun result left => ?_
    exact ⟨left.1, Nat.lt_succ_of_lt left.2⟩
  · -- No other kind of token starts an expression.
    exact refuse_settles _ _ _

/-- An expression settles if the one that its members are asked of does. -/
theorem expressionWithin_settles (ready : Ready tokens)
    (enough : 3 * tokens.length ≤ steps + 1) :
    Settles (Leaves tokens.length) (expressionWithin (steps + 1) tokens) := by
  simp only [expressionWithin]
  -- The primary takes a token, and the members behind it take no less than none.
  refine (settles.primary ready enough).bind fun result left => ?_
  refine (memberChain_settles result.1 left.1).weaken fun final behind => ⟨behind.1, ?_⟩
  have shorter := left.2
  have shortest := behind.2
  omega

/-- The items of a list settle if the first one and the items behind it do. -/
theorem itemsWithin_settles (ready : Ready tokens) (enough : 3 * tokens.length < steps + 1) :
    Settles (Leaves tokens.length) (itemsWithin (steps + 1) tokens) := by
  obtain ⟨token, rest, rfl⟩ := ready.first
  simp only [itemsWithin]
  -- The list ends here, or an item comes first.
  split
  · rename_i closed
    exact ⟨ready.behind (by simp [closed]), by simp⟩
  · -- An item takes a token at least, so that the steps that are left are enough.
    refine (settles.expression ready (by omega)).bind fun item left => ?_
    have shorter := left.2
    refine (separator_settles left.1 _ _).bind fun others separated => ?_
    have shortest := separated.2
    refine (settles.items separated.1 (by omega)).bind fun items behind => ?_
    have less := behind.2
    exact ⟨behind.1, show items.2.length < (token :: rest).length by omega⟩

/-- The pairs of a hash settle if the first value and the pairs behind it do. -/
theorem pairsWithin_settles (ready : Ready tokens) (enough : 3 * tokens.length < steps + 1) :
    Settles (Leaves tokens.length) (pairsWithin (steps + 1) tokens) := by
  obtain ⟨token, rest, rfl⟩ := ready.first
  simp only [pairsWithin]
  -- The hash ends here, or a key comes first.
  split
  · rename_i closed
    exact ⟨ready.behind (by simp [closed]), by simp⟩
  · -- Key, colon and value take a token each, so the steps that are left are enough.
    refine (hashKey_settles ready).bind fun key left => ?_
    have behindKey := left.2
    refine (expect_settles left.1 (by simp)).bind fun others assigned => ?_
    have behindColon := assigned.2
    refine (settles.expression assigned.1 (by omega)).bind fun value found => ?_
    have behindValue := found.2
    refine (separator_settles found.1 _ _).bind fun others separated => ?_
    have behindComma := separated.2
    refine (settles.pairs separated.1 (by omega)).bind fun pairs behind => ?_
    have less := behind.2
    exact ⟨behind.1, show pairs.2.length < (token :: rest).length by omega⟩

end

/-- Reading settles within any number of steps that is enough. -/
theorem settlesWithin (steps : Nat) : SettlesWithin steps := by
  -- Each reading gives the steps but one to those inside it.
  induction steps with
  | zero => exact settlesWithin_zero
  | succ steps ih =>
    exact ⟨primaryWithin_settles ih, expressionWithin_settles ih, itemsWithin_settles ih,
      pairsWithin_settles ih⟩

/-- An expression settles. -/
theorem expression_settles (ready : Ready tokens) :
    Settles (Leaves tokens.length) (expression tokens) :=
  -- The reading starts with three steps for each token.
  (settlesWithin _).expression ready (by omega)

/-- A variant settles. -/
theorem variantName_settles (ready : Ready tokens) :
    Settles (Leaves (tokens.length + 1)) (variantName tokens) := by
  obtain ⟨token, rest, rfl⟩ := ready.first
  simp only [variantName]
  -- A string is taken, and anything else is left.
  split
  · rename_i kind
    exact ⟨ready.behind (by simp [kind]), by simp only [List.length_cons]; omega⟩
  · exact ⟨ready, by simp⟩

/-- Data of a component settles. -/
theorem componentData_settles (ready : Ready tokens) :
    Settles (Leaves (tokens.length + 1)) (componentData tokens) := by
  obtain ⟨keyword, rest, rfl⟩ := ready.first
  -- Only the word asks for data, which then has to be there.
  by_cases named : keyword.isWord "with" = true
  · have behind := ready.behind (by simp [Token.isWord_kind named])
    obtain ⟨first, more, rfl⟩ := behind.first
    simp only [componentData, named, if_true]
    split
    · exact refuse_settles _ _ _
    · refine (expression_settles behind).map fun result left => ⟨left.1, ?_⟩
      have shorter := left.2
      simp only [List.length_cons] at shorter ⊢
      omega
  · rw [componentData.eq_def]
    simp only [named]
    exact ⟨ready, by simp⟩

/-- Data of a view settles. -/
theorem viewData_settles (ready : Ready tokens) :
    Settles (Leaves (tokens.length + 1)) (viewData tokens) := by
  obtain ⟨token, rest, rfl⟩ := ready.first
  simp only [viewData]
  -- The end of the tag and the word behind the data say that there is none.
  split
  · exact ⟨ready, by simp⟩
  · exact (expression_settles ready).map fun result left =>
      ⟨left.1, Nat.lt_succ_of_lt left.2⟩

/-- The word that cuts off a context settles. -/
theorem onlyWord_settles (ready : Ready tokens) :
    Settles (Leaves (tokens.length + 1)) (onlyWord tokens) := by
  -- The flag is no end token, so the tokens behind it are ready too.
  obtain ⟨token, rest, rfl⟩ := ready.first
  simp only [onlyWord]
  split
  · rename_i named
    exact ⟨ready.behind (by simp [Token.isWord_kind named]), by simp only [List.length_cons]; omega⟩
  · exact ⟨ready, by simp⟩

/-- The end of a tag settles. -/
theorem tagEnd_settles (ready : Ready tokens) (tag : String) :
    Settles (fun rest => Ready rest ∧ rest.length < tokens.length) (tagEnd tag tokens) := by
  -- The closer is no end token, so the tokens behind it are ready too.
  obtain ⟨token, rest, rfl⟩ := ready.first
  simp only [tagEnd]
  split
  · rename_i closed
    exact ⟨ready.behind (by simp [closed]), by simp⟩
  · exact refuse_settles _ _ _

/-- A block tag settles. -/
theorem blockTag_settles (ready : Ready tokens) :
    Settles (Leaves tokens.length) (blockTag tokens) := by
  obtain ⟨keyword, rest, rfl⟩ := ready.first
  simp only [blockTag]
  -- A tag without a name is at fault there.
  split
  · exact refuse_settles _ _ _
  · rename_i kind
    simp only [ne_eq, Decidable.not_not] at kind
    have behind := ready.behind (by simp [kind])
    split
    · -- A component has four parts, each of which leaves fewer tokens or as many.
      refine (expression_settles behind).bind fun name called => ?_
      have behindName := called.2
      refine (variantName_settles called.1).bind fun variant varied => ?_
      have behindVariant := varied.2
      refine (componentData_settles varied.1).bind fun data given => ?_
      have behindData := given.2
      refine (onlyWord_settles given.1).bind fun only cut => ?_
      have behindOnly := cut.2
      refine (tagEnd_settles cut.1 _).bind fun others ended => ?_
      have shorter := ended.2
      exact ⟨ended.1, show others.length < rest.length + 1 by omega⟩
    · split
      · -- A view has three of them.
        refine (expression_settles behind).bind fun name called => ?_
        have behindName := called.2
        refine (viewData_settles called.1).bind fun data given => ?_
        have behindData := given.2
        refine (onlyWord_settles given.1).bind fun only cut => ?_
        have behindOnly := cut.2
        refine (tagEnd_settles cut.1 _).bind fun others ended => ?_
        have shorter := ended.2
        exact ⟨ended.1, show others.length < rest.length + 1 by omega⟩
      · -- No other name is that of a tag.
        exact refuse_settles _ _ _

/-- A node of a body settles, unless it would be the end of input. -/
theorem bodyNode_settles (ready : Ready (token :: rest)) :
    Settles (Leaves (rest.length + 1)) (bodyNode token rest) := by
  simp only [bodyNode]
  -- The first token tells text, an output and a block apart, and is at fault otherwise.
  split
  · rename_i kind
    exact ⟨ready.behind (by simp [kind]), by simp⟩
  · -- An output has an expression inside.
    rename_i opened
    have behind := ready.behind (by simp [opened])
    obtain ⟨first, more, rfl⟩ := behind.first
    simp only [outputTag]
    split
    · exact refuse_settles _ _ _
    · refine (expression_settles behind).bind fun value found => ?_
      have behindValue := found.2
      refine (expect_settles found.1 (by simp)).bind fun others ended => ?_
      have shorter := ended.2
      exact ⟨ended.1, show others.length < (first :: more).length + 1 by omega⟩
  · -- A block has a tag inside.
    rename_i opened
    exact (blockTag_settles (ready.behind (by simp [opened]))).weaken fun result left =>
      ⟨left.1, Nat.lt_succ_of_lt left.2⟩
  · exact refuse_settles _ _ _

/-- A body settles. -/
theorem bodyWithin_settles (ready : Ready tokens) {steps : Nat} (enough : tokens.length ≤ steps) :
    Settles (fun _ => True) (bodyWithin steps tokens) := by
  -- Each node takes a token at least, so one step for each of them is enough.
  induction steps generalizing tokens with
  | zero =>
    obtain ⟨token, rest, rfl⟩ := ready.first
    simp only [List.length_cons] at enough
    omega
  | succ steps ih =>
    obtain ⟨token, rest, rfl⟩ := ready.first
    simp only [List.length_cons] at enough
    simp only [bodyWithin]
    split
    · trivial
    · refine (bodyNode_settles ready).bind fun result left => ?_
      have shorter := left.2
      refine (ih left.1 (by omega)).bind fun nodes _ => ?_
      trivial

/-- A derived body ends with the end of input. -/
theorem DerivesBody.ends {nodes : List Node} (body : DerivesBody tokens nodes) :
    ∃ front token, tokens = front ++ [token] ∧ token.kind = .endOfInput := by
  -- The end of the last node's tokens is where the body ends.
  induction body with
  | @ended token kind => exact ⟨[], token, rfl, kind⟩
  | @node words others _ _ found body ih =>
    obtain ⟨front, token, rfl, kind⟩ := ih
    exact ⟨words ++ front, token, by simp, kind⟩

/-- Nothing is left of tokens that end once when a body of them is derived. -/
theorem EndsOnce.none_left {words left : List Token} {nodes : List Node}
    (once : EndsOnce (words ++ left)) (body : DerivesBody words nodes) : left = [] := by
  obtain ⟨front, token, rfl, kind⟩ := body.ends
  obtain ⟨before, last, same, _, others⟩ := once
  -- If anything were left, the end of the body would stand before the last token.
  rcases List.eq_nil_or_concat left with rfl | ⟨more, final, rfl⟩
  · rfl
  · have split : (front ++ token :: more) ++ [final] = before ++ [last] := by
      rw [← same]
      simp
    have member : token ∈ before := by
      rw [← (List.append_inj' split rfl).1]
      simp
    exact absurd kind (others token member)

/-- What is read from tokens that end once is derived from all of them. -/
theorem EndsOnce.derived (once : EndsOnce tokens) {tree : Node}
    (read : Node.ofTokens tokens = .ok tree) : DerivesTemplate tokens tree := by
  obtain ⟨nodes, body, rfl⟩ := map_eq_ok.1 read
  obtain ⟨words, left, rfl, derived⟩ := bodyWithin_derived body
  -- The body ends at the first end of input, which is the only one.
  obtain rfl := once.none_left derived
  rw [List.append_nil]
  exact .template derived

/-- Tokens up to the end of input are read as a tree, or the reading stops at one of them. -/
theorem ofTokens_settles (ready : Ready tokens) :
    Settles (fun _ => True) (Node.ofTokens tokens) :=
  -- The tree is the body, wrapped.
  (bodyWithin_settles ready (Nat.le_succ tokens.length)).map fun _ _ => trivial

/-- A reading never stops at a number that can be read. -/
theorem ParseStop.At.numeric {stop : ParseStop} {token : Token} (named : stop.At token)
    (numeric : token.IsNumeric) : ∃ fault, stop = .fault fault ∧ fault.token = token := by
  -- Numbers that can be read leave only the faults of the grammar.
  cases named with
  | fault fault => exact ⟨fault, rfl, rfl⟩
  | integer kind unread =>
    have read := numeric.1 kind
    simp [unread] at read
  | float kind unread =>
    have read := numeric.2 kind
    simp [unread] at read

/-- Tokens are read as a tree when the tree is derived from them, and else one is at fault. -/
theorem ofTokens_grammar (once : EndsOnce tokens)
    (numeric : ∀ token ∈ tokens, token.IsNumeric) :
    (∀ tree, Node.ofTokens tokens = .ok tree ↔ DerivesTemplate tokens tree) ∧
      ((∃ tree, DerivesTemplate tokens tree) ∨
        ∃ fault, Node.ofTokens tokens = .error (.fault fault)) := by
  refine ⟨fun tree => ⟨once.derived, DerivesTemplate.read⟩, ?_⟩
  have ready : Ready tokens := by
    obtain ⟨front, token, same, kind, _⟩ := once
    exact ⟨front, token, same, kind⟩
  -- What is not read has settled, so the reading has not run out of steps or tokens.
  have settled := ofTokens_settles ready
  cases read : Node.ofTokens tokens with
  | ok tree => exact .inl ⟨tree, once.derived read⟩
  | error stop =>
    rw [read] at settled
    -- It has stopped at a token, which is at fault since it is a number where it says so.
    obtain ⟨before, token, after, split, named, _⟩ := ofTokens_stopped read settled
    obtain ⟨fault, rfl, _⟩ := named.numeric (numeric token (by simp [split]))
    exact .inr ⟨fault, rfl⟩

end

/-- The tokens of a view with data and a last comma, cut off from its caller. -/
def viewTokens : List Token :=
  [⟨.blockOpen, "\x7b%", ⟨1, 0⟩⟩, ⟨.name, "view", ⟨1, 3⟩⟩, ⟨.name, "nav", ⟨1, 8⟩⟩,
   ⟨.braceOpen, "\x7b", ⟨1, 12⟩⟩, ⟨.name, "size", ⟨1, 13⟩⟩, ⟨.colon, ":", ⟨1, 17⟩⟩,
   ⟨.integer, "12", ⟨1, 19⟩⟩, ⟨.comma, ",", ⟨1, 21⟩⟩, ⟨.braceClose, "\x7d", ⟨1, 22⟩⟩,
   ⟨.name, "only", ⟨1, 24⟩⟩, ⟨.blockClose, "%\x7d", ⟨1, 29⟩⟩, ⟨.endOfInput, "", ⟨1, 31⟩⟩]

/-- The view is derived as its tree, since it is read as that. -/
theorem ofTokens_grammar_view :
    EndsOnce viewTokens ∧ (∀ token ∈ viewTokens, token.IsNumeric) ∧
      DerivesTemplate viewTokens (.template ⟨1, 0⟩
        [.component ⟨1, 3⟩ (.name ⟨1, 8⟩ "nav") none
          (some (.hash ⟨1, 12⟩ [.constant ⟨1, 13⟩ (.text "size")] [.constant ⟨1, 19⟩ (.int 12)]))
          true]) := by
  -- The tokens are closed and their numbers are read by evaluation. The reading itself is
  -- evaluated, and the statement turns it into a derivation.
  have once : EndsOnce viewTokens :=
    ⟨viewTokens.dropLast, ⟨.endOfInput, "", ⟨1, 31⟩⟩, by decide, rfl, by decide⟩
  have numeric : ∀ token ∈ viewTokens, token.IsNumeric := by
    unfold Token.IsNumeric
    decide +kernel
  exact ⟨once, numeric, ((ofTokens_grammar once numeric).1 _).1 rfl⟩

end Stencil
