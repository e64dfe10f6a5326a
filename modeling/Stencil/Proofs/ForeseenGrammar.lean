import Stencil.Proofs.Foresight

/-! The parts of a template are read with foresight of the grammar that derives them. -/

namespace Stencil

section

variable {tokens rest : List Token}

/-- A key is foreseen as the one token that it is. -/
theorem hashKey_foresees (tokens : List Token) :
    Foresees (fun words key => ∃ token, words = [token] ∧ token.KeyOf key) hashKey tokens := by
  cases tokens with
  | nil => exact .ended rfl
  | cons token rest =>
    -- The kind of the token tells which key it is, or that it is none.
    by_cases word : token.kind = .name ∨ token.kind = .string
    · exact .take (fun others => hashKey_of (.word word) others) ⟨token, rfl, .word word⟩
    · rw [not_or] at word
      by_cases integer : token.kind = .integer
      · cases read : readInteger? token.value with
        | some number =>
          exact .take (fun others => hashKey_of (.integer integer read) others)
            ⟨token, rfl, .integer integer read⟩
        | none =>
          refine .noInteger integer read (fun others => ?_) fun other number kind found =>
            ⟨[], _, other, rfl, .integer kind found⟩
          simp [hashKey, integer, integerConstant, read]
      · refine .refuse .hashKey (fun others => ?_)
          ⟨wordToken "", rfl, .word (.inl rfl)⟩
        unfold hashKey
        split <;> simp_all

/-- What members add to the tokens of an expression. -/
def Members (object : Node) (words : List Token) (node : Node) : Prop :=
  ∀ front, Derives front (.expression object) → Derives (front ++ words) (.expression node)

/-- What stands behind the dot of a member. -/
def memberBehind (object : Node) : List Token → Reading (Node × List Token)
  | [] => .error .tokensEnd
  | name :: rest =>
    if name.kind = .name then memberChain (.member object.position object name.value) rest
    else refuse .missingMemberName (name :: rest)

/-- Members go on behind a dot. -/
theorem memberChain_dot (object : Node) {dot : Token} (dotted : dot.kind = .dot)
    (rest : List Token) : memberChain object (dot :: rest) = memberBehind object rest := by
  -- Behind the dot a name is asked for, whether or not there is a token.
  cases rest with
  | nil => simp [memberChain, memberBehind, dotted]
  | cons name rest => simp only [memberChain, memberBehind, dotted, if_true]

/-- A dot and a name add a member. -/
theorem Members.member {object node : Node} {dot name : Token} {words : List Token}
    (dotted : dot.kind = .dot) (named : name.kind = .name)
    (more : Members (.member object.position object name.value) words node) :
    Members object (dot :: name :: words) node := by
  -- The dot and the name make a longer member, and the chain goes on from that.
  intro front found
  have longer := more _ (.member found dotted named)
  rwa [List.append_assoc] at longer

/-- Members are foreseen. -/
theorem memberChain_foresees (object : Node) (tokens : List Token) :
    Foresees (Members object) (memberChain object) tokens := by
  -- The induction follows the chain, which takes a dot and a name at a time.
  induction object, tokens using memberChain.induct with
  | case1 object => exact .ended (by simp [memberChain])
  | case2 object dot dotted =>
    exact .ended (by simp [memberChain, dotted])
  | case3 object dot dotted name others named ih =>
    -- The name is looked at once the dot has been taken.
    have inner : Foresees (fun words node => ∃ more, words = name :: more ∧
        Members (.member object.position object name.value) more node)
        (memberBehind object) (name :: others) := (ih.behind name).congr fun others next => by
      obtain ⟨more, rfl⟩ := List.head?_eq_some_iff.1 next
      simp only [memberBehind, named, if_true, List.tail_cons]
    refine ((inner.behind dot).congr fun others next => ?_).imp ?_
    · obtain ⟨more, rfl⟩ := List.head?_eq_some_iff.1 next
      exact memberChain_dot object dotted more
    · rintro words node ⟨_, rfl, more, rfl, members⟩
      exact .member dotted named members
  | case4 object dot dotted name others other =>
    -- Any name would have done behind the dot.
    have inner : Foresees (fun words node => ∃ name, words = [name] ∧ name.kind = .name ∧
        node = .member object.position object name.value)
        (memberBehind object) (name :: others) :=
      .refuse .missingMemberName
        (fun others => by simp only [memberBehind, other, if_false])
        ⟨wordToken "", rfl, rfl, rfl⟩
    refine ((inner.behind dot).congr fun others next => ?_).imp ?_
    · obtain ⟨more, rfl⟩ := List.head?_eq_some_iff.1 next
      exact memberChain_dot object dotted more
    · rintro words node ⟨_, rfl, name, rfl, named, rfl⟩
      exact .member dotted named fun front found => by rwa [List.append_nil]
  | case5 object token others other =>
    refine .leave (fun more => memberChain_stop object other more) fun front found => ?_
    rwa [List.append_nil]

/-- The items of a list with the end of it. -/
def EndedItems (words : List Token) (nodes : List Node) : Prop :=
  ∃ inner closing, words = inner ++ [closing] ∧ closing.kind = .bracketClose ∧
    Derives inner (.items nodes)

/-- The pairs of a hash with the end of it. -/
def EndedPairs (words : List Token) (pairs : List Node × List Node) : Prop :=
  ∃ inner closing, words = inner ++ [closing] ∧ closing.kind = .braceClose ∧
    Derives inner (.pairs pairs.1 pairs.2)

/-- What stands behind an item: a comma and the others, or the end. -/
def Separated {Meaning : Type} (close : TokenKind) (others : List Token → Meaning → Prop)
    (nothing : Meaning) (words : List Token) (meaning : Meaning) : Prop :=
  (∃ comma more, words = comma :: more ∧ comma.kind = .comma ∧ others more meaning) ∨
    ∃ closing, words = [closing] ∧ closing.kind = close ∧ meaning = nothing

/-- What stands behind an item is foreseen if what stands behind a comma is. -/
theorem separator_foresees {Meaning : Type} {close : TokenKind} (other : close ≠ .comma)
    (problem : ParseProblem) {others : List Token → Meaning → Prop} {nothing : Meaning}
    (again : List Token → Reading (Meaning × List Token))
    (stops : ∀ closing rest, closing.kind = close → again (closing :: rest) = .ok (nothing, rest))
    (tokens : List Token)
    (further : ∀ comma rest, tokens = comma :: rest → Foresees others again rest) :
    Foresees (Separated close others nothing)
      (fun tokens => separator close problem tokens >>= again) tokens := by
  -- The token behind an item decides: a comma leads on, the closer ends the items, any other token
  -- is refused where the closer could stand.
  cases tokens with
  | nil => exact .ended rfl
  | cons token rest =>
    by_cases comma : token.kind = .comma
    · refine (((further token rest rfl).behind token).congr fun others next => ?_).imp ?_
      · obtain ⟨more, rfl⟩ := List.head?_eq_some_iff.1 next
        simp only [separator, comma, if_true, ok_bind, List.tail_cons]
      · rintro words meaning ⟨more, rfl, spoken⟩
        exact .inl ⟨token, more, rfl, comma, spoken⟩
    · by_cases closed : token.kind = close
      · refine .take (fun others => ?_) (.inr ⟨token, rfl, closed, rfl⟩)
        simp only [separator, closed, other, if_true, if_false, ok_bind, stops token others closed]
      · refine .refuse problem (fun others => ?_)
          (.inr ⟨blankToken close, rfl, rfl, rfl⟩)
        simp only [separator, comma, closed, if_false]
        rfl

/-- The readings of expressions and of their parts are foreseen. -/
structure ForeseesExpressions (tokens : List Token) : Prop where
  expression : Foresees (fun words node => Derives words (.expression node)) expression tokens
  items : Foresees EndedItems listItems tokens
  pairs : Foresees EndedPairs hashPairs tokens

/-- An expression without members is foreseen if what stands behind its first token is. -/
theorem primaryExpression_foresees
    (inside : ∀ token rest, tokens = token :: rest → ForeseesExpressions rest) :
    Foresees (fun words node => Derives words (.primary node)) primaryExpression tokens := by
  cases tokens with
  | nil => exact .ended primaryExpression_nil
  | cons token rest =>
    -- The cases are the kinds of the first token.
    cases kind : token.kind with
    | string =>
      exact .take (fun others => by rw [primaryExpression_cons, kind]) (.string kind)
    | name =>
      exact .take (fun others => by rw [primaryExpression_cons, kind]) (namedNode_derived kind)
    | integer =>
      cases read : readInteger? token.value with
      | some number =>
        refine .take (fun others => ?_) (.integer kind read)
        simp only [primaryExpression_cons, kind, integerConstant, read, map_ok]
      | none =>
        -- Any integer that can be read would have been taken.
        refine .noInteger kind read (fun others => ?_) fun other number integer found =>
          ⟨[], _, .integer integer found⟩
        simp only [primaryExpression_cons, kind, integerConstant, read, map_error]
    | float =>
      cases read : readDouble? token.value with
      | some number =>
        refine .take (fun others => ?_) (.float kind read)
        simp only [primaryExpression_cons, kind, floatConstant, read, map_ok]
      | none =>
        refine .noFloat kind read (fun others => ?_) fun other number float found =>
          ⟨[], _, .float float found⟩
        simp only [primaryExpression_cons, kind, floatConstant, read, map_error]
    | bracketOpen =>
      have items := (inside token rest rfl).items.map (Node.list token.position)
      refine ((items.behind token).congr fun others next => ?_).imp ?_
      · obtain ⟨more, rfl⟩ := List.head?_eq_some_iff.1 next
        rw [primaryExpression_cons, kind]
        rfl
      · rintro words node ⟨_, rfl, nodes, ⟨inner, closing, rfl, closed, found⟩, rfl⟩
        exact .list kind found closed
    | braceOpen =>
      have pairs := (inside token rest rfl).pairs.map fun pairs =>
        Node.hash token.position pairs.1 pairs.2
      refine ((pairs.behind token).congr fun others next => ?_).imp ?_
      · obtain ⟨more, rfl⟩ := List.head?_eq_some_iff.1 next
        rw [primaryExpression_cons, kind]
        rfl
      · rintro words node ⟨_, rfl, parts, ⟨inner, closing, rfl, closed, found⟩, rfl⟩
        exact .hash kind found closed
    | _ =>
      -- No other kind of token starts an expression.
      refine .refuse .notAnExpression (fun others => ?_)
        (.string (show (blankToken .string).kind = .string from rfl))
      rw [primaryExpression_cons, kind]

/-- An expression is foreseen as what its members are asked of, and then as those. -/
theorem expression_foreseen
    (primary : Foresees (fun words node => Derives words (.primary node)) primaryExpression
      tokens) :
    Foresees (fun words node => Derives words (.expression node)) expression tokens := by
  -- An expression may always end where its members are asked for.
  refine ((primary.bind (fun object rest _ => memberChain_foresees object rest) fun _ object _ =>
    ⟨[], object, fun front found => by rwa [List.append_nil]⟩).congr fun others _ => rfl).imp ?_
  · rintro words node ⟨front, object, back, rfl, found, members⟩
    exact members front (.primary found)

/-- The items of a list are foreseen if the first of them is, and what stands behind it. -/
theorem listItems_foreseen
    (item : Foresees (fun words node => Derives words (.expression node)) expression tokens)
    (shorter : ∀ fewer : List Token, fewer.length < tokens.length → ForeseesExpressions fewer) :
    Foresees EndedItems listItems tokens := by
  cases tokens with
  | nil => exact .ended listItems_nil
  | cons token rest =>
    by_cases closed : token.kind = .bracketClose
    · refine .take (fun others => ?_) ⟨[], token, rfl, closed, .noItems⟩
      rw [listItems_cons, if_pos closed]
    · -- Behind an item there is its separator, and then the items that are left.
      have behind (node : Node) (left : List Token)
          (read : expression (token :: rest) = .ok (node, left)) :
          Foresees (Separated .bracketClose
              (fun words nodes => ∃ items, EndedItems words items ∧ nodes = node :: items) [node])
            (fun tokens => separator .bracketClose .listSeparator tokens >>= fun rest =>
              listItems rest >>= fun result => .ok (node :: result.1, result.2)) left := by
        refine separator_foresees (by decide) _ _ (fun closing others ended => ?_) left ?_
        · rw [listItems_cons, if_pos ended, ok_bind]
        · rintro comma others rfl
          have less := expressionWithin_shorter read
          refine (shorter others ?_).items.map (node :: ·)
          simp only [List.length_cons] at less ⊢
          omega
      refine ((item.bind behind fun words node _ =>
        ⟨[blankToken .bracketClose], [node], .inr ⟨_, rfl, rfl, rfl⟩⟩).congr
          fun others next => ?_).imp ?_
      · obtain ⟨more, rfl⟩ := List.head?_eq_some_iff.1 next
        rw [listItems_cons, if_neg closed]
      · rintro words nodes ⟨front, node, _, rfl, found, ⟨comma, _, rfl, separated, items,
          ⟨inner, closing, rfl, ended, list⟩, rfl⟩ | ⟨closing, rfl, ended, rfl⟩⟩
        · exact ⟨front ++ comma :: inner, closing, by simp, ended, .item found separated list⟩
        · exact ⟨front, closing, rfl, ended, .lastItem found⟩

/-- A value and what stands behind it, in a pair with a key. -/
def ValueAndPairs (key : Node) (words : List Token) (pairs : List Node × List Node) : Prop :=
  ∃ front value back, words = front ++ back ∧ Derives front (.expression value) ∧
    Separated .braceClose
      (fun words pairs => ∃ others, EndedPairs words others ∧
        pairs = (key :: others.1, value :: others.2)) ([key], [value]) back pairs

/-- A value with the pairs behind it makes pairs with the key and the colon in front. -/
theorem ValueAndPairs.ended {token colon : Token} {key : Node} {words : List Token}
    {pairs : List Node × List Node} (named : token.KeyOf key) (assigned : colon.kind = .colon)
    (behind : ValueAndPairs key words pairs) : EndedPairs (token :: colon :: words) pairs := by
  -- Either pairs follow behind a comma or the hash is closed.
  obtain ⟨front, value, _, rfl, found, ⟨comma, _, rfl, separated, others,
    ⟨inner, closing, rfl, ended, hash⟩, rfl⟩ | ⟨closing, rfl, ended, rfl⟩⟩ := behind
  · exact ⟨token :: colon :: front ++ comma :: inner, closing, by simp, ended,
      .pair named assigned found separated hash⟩
  · exact ⟨token :: colon :: front, closing, by simp, ended, .lastPair named assigned found⟩

/-- A value is foreseen, and the pairs behind it are. -/
theorem valueAndPairs_foreseen (key : Node)
    (inside : ∀ fewer : List Token, fewer.length ≤ tokens.length → ForeseesExpressions fewer) :
    Foresees (ValueAndPairs key)
      (fun tokens => expression tokens >>= fun value =>
        separator .braceClose .hashSeparator value.2 >>= fun rest =>
          hashPairs rest >>= fun result =>
            .ok ((key :: result.1.1, value.1 :: result.1.2), result.2)) tokens := by
  -- The value is read first, and it takes tokens. What is left is therefore shorter, which is what
  -- the recursion over the tokens asks for.
  have behind (value : Node) (left : List Token)
      (read : expression tokens = .ok (value, left)) :
      Foresees (Separated .braceClose
          (fun words pairs => ∃ others, EndedPairs words others ∧
            pairs = (key :: others.1, value :: others.2)) ([key], [value]))
        (fun tokens => separator .braceClose .hashSeparator tokens >>= fun rest =>
          hashPairs rest >>= fun result =>
            .ok ((key :: result.1.1, value :: result.1.2), result.2)) left := by
    refine separator_foresees (by decide) _ _ (fun closing others ended => ?_) left ?_
    · rw [hashPairs_cons, if_pos ended, ok_bind]
    · rintro comma others rfl
      have less := expressionWithin_shorter read
      refine (inside others ?_).pairs.map fun pairs => (key :: pairs.1, value :: pairs.2)
      simp only [List.length_cons] at less
      omega
  exact (inside tokens (Nat.le_refl _)).expression.bind behind fun _ value _ =>
    ⟨[blankToken .braceClose], ([key], [value]), .inr ⟨_, rfl, rfl, rfl⟩⟩

/-- The pairs of a hash are foreseen if the first value is, and what stands behind it. -/
theorem hashPairs_foreseen
    (shorter : ∀ fewer : List Token, fewer.length < tokens.length → ForeseesExpressions fewer) :
    Foresees EndedPairs hashPairs tokens := by
  cases tokens with
  | nil => exact .ended hashPairs_nil
  | cons token rest =>
    by_cases closed : token.kind = .braceClose
    · have empty : EndedPairs [token] ([], []) := ⟨[], token, rfl, closed, .noPairs⟩
      exact .take (fun others => by rw [hashPairs_cons, if_pos closed]) empty
    · -- Any value would do behind a key and its colon, and the hash may end behind that.
      have value (key : Node) : ValueAndPairs key [blankToken .string, blankToken .braceClose]
          ([key], [.constant .start (.text "")]) :=
        ⟨[_], _, [_], rfl, blankToken_expression, .inr ⟨_, rfl, rfl, rfl⟩⟩
      have behindKey (key : Node) (left : List Token)
          (read : hashKey (token :: rest) = .ok (key, left)) :=
        (closing_foresees rfl (fun _ _ => rfl) () left : Foresees _ (fun tokens =>
          expect .colon tokens >>= fun rest => .ok ((), rest)) left).bind
            (fun _ others assigned => by
              refine valueAndPairs_foreseen key fun fewer few => shorter fewer ?_
              obtain ⟨_, found, same⟩ := bind_eq_ok.1 assigned
              obtain ⟨_, split, _⟩ := expect_found found
              obtain ⟨_, first, _⟩ := hashKey_derived read
              cases same
              cases first
              simp only [split, List.length_cons]
              omega)
            fun _ _ _ => ⟨_, _, value key⟩
      refine (((hashKey_foresees (token :: rest)).bind behindKey ?_).congr
        fun others next => ?_).imp ?_
      · exact fun words key _ => ⟨[blankToken .colon, blankToken .string, blankToken .braceClose],
          _, [_], (), _, rfl, ⟨rfl, _, rfl, rfl⟩, value key⟩
      · obtain ⟨more, rfl⟩ := List.head?_eq_some_iff.1 next
        rw [hashPairs_cons, if_neg closed]
        simp only [bind_assoc, ok_bind]
      · rintro words pairs ⟨_, key, _, rfl, ⟨token, rfl, named⟩, _, _, back, rfl,
          ⟨_, colon, rfl, assigned⟩, behind⟩
        exact behind.ended named assigned

/-- Expressions and their parts are foreseen. -/
theorem foreseesExpressions (tokens : List Token) : ForeseesExpressions tokens := by
  -- The induction is on the number of tokens, which is less behind any token.
  generalize count : tokens.length = length
  induction length using Nat.strongRecOn generalizing tokens with
  | _ length ih =>
    have shorter (fewer : List Token) (less : fewer.length < tokens.length) :
        ForeseesExpressions fewer := ih fewer.length (count ▸ less) fewer rfl
    have primary := primaryExpression_foresees fun token rest (same : tokens = token :: rest) =>
      shorter rest (by simp [same])
    have item := expression_foreseen primary
    exact ⟨item, listItems_foreseen item shorter, hashPairs_foreseen shorter⟩

/-- An expression is foreseen. -/
theorem expression_foresees (tokens : List Token) :
    Foresees (fun words node => Derives words (.expression node)) expression tokens :=
  -- The statement for all of the grammar holds at every length.
  (foreseesExpressions tokens).expression

end

end Stencil
