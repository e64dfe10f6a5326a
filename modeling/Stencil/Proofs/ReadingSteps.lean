import Stencil.Proofs.ReadDerived

/-! The bound on the steps of a reading is never reached, so that readings are told without it. -/

namespace Stencil

/-- An expression without members, with steps enough. -/
def primaryExpression (tokens : List Token) : Reading (Node × List Token) :=
  primaryWithin (3 * tokens.length + 2) tokens

/-- The items of a list up to its end, with steps enough. -/
def listItems (tokens : List Token) : Reading (List Node × List Token) :=
  itemsWithin (3 * tokens.length + 1) tokens

/-- The keys and values of a hash up to its end, with steps enough. -/
def hashPairs (tokens : List Token) : Reading ((List Node × List Node) × List Token) :=
  pairsWithin (3 * tokens.length + 1) tokens

section

variable {Fault Meaning Other : Type}

/-- Steps that go on alike from every result are alike. -/
theorem bind_congr_ok {outcome : Except Fault Meaning} {next follow : Meaning → Except Fault Other}
    (same : ∀ value, outcome = .ok value → next value = follow value) :
    (outcome >>= next) = outcome >>= follow := by
  -- What follows is asked for only at a value.
  cases outcome with
  | error fault => rfl
  | ok value => exact same value rfl

end

section

variable {tokens rest : List Token} {node : Node}

/-- What is read within some steps as an expression takes a token at least. -/
theorem expressionWithin_shorter {steps : Nat}
    (read : expressionWithin steps tokens = .ok (node, rest)) : rest.length < tokens.length := by
  -- A phrase that was read has at least one token.
  obtain ⟨words, rfl, found⟩ := (readDerived steps).expression read
  obtain ⟨first, more, rfl, _⟩ := found.starts
  simp only [List.cons_append, List.length_cons, List.length_append]
  omega

/-- What follows a separator is no longer than what starts with it. -/
theorem separator_shorter {close : TokenKind} {problem : ParseProblem}
    (read : separator close problem tokens = .ok rest) : rest.length ≤ tokens.length := by
  -- A comma is taken, a closer is left for the caller.
  rcases separator_found read with ⟨comma, rfl, _⟩ | ⟨_, _, _, _, rfl⟩
  · simp
  · exact Nat.le_refl _

end

/-- One step more than is enough for the tokens changes no reading. -/
structure StepsEnough (steps : Nat) : Prop where
  -- One call of each kind may come between two tokens, hence the factor.
  primary : ∀ tokens : List Token, 3 * tokens.length ≤ steps + 1 →
    primaryWithin (steps + 1) tokens = primaryWithin steps tokens
  expression : ∀ tokens : List Token, 3 * tokens.length ≤ steps →
    expressionWithin (steps + 1) tokens = expressionWithin steps tokens
  items : ∀ tokens : List Token, 3 * tokens.length < steps →
    itemsWithin (steps + 1) tokens = itemsWithin steps tokens
  pairs : ∀ tokens : List Token, 3 * tokens.length < steps →
    pairsWithin (steps + 1) tokens = pairsWithin steps tokens

/-- Without steps, there can be no tokens. -/
theorem stepsEnough_zero : StepsEnough 0 where
  -- Without steps there may be no tokens either, and both sides end there.
  primary tokens enough := by
    cases tokens with
    | nil => rfl
    | cons token rest =>
      simp only [List.length_cons] at enough
      omega
  expression tokens enough := by
    cases tokens with
    | nil => rfl
    | cons token rest =>
      simp only [List.length_cons] at enough
      omega
  items tokens enough := by omega
  pairs tokens enough := by omega

section

variable {steps : Nat} (less : StepsEnough steps)

include less

/-- A step more changes no expression without members if it changes nothing inside. -/
theorem primaryWithin_enough (tokens : List Token) (enough : 3 * tokens.length ≤ steps + 2) :
    primaryWithin (steps + 2) tokens = primaryWithin (steps + 1) tokens := by
  cases tokens with
  | nil => rfl
  | cons token rest =>
    simp only [List.length_cons] at enough
    -- Only a list and a hash hand their steps on.
    simp only [primaryWithin, less.items rest (by omega), less.pairs rest (by omega)]

/-- A step more changes no expression if it changes nothing inside. -/
theorem expressionWithin_enough (tokens : List Token) (enough : 3 * tokens.length ≤ steps + 1) :
    expressionWithin (steps + 2) tokens = expressionWithin (steps + 1) tokens := by
  -- One more step is one more for the primary, which has enough of them.
  simp only [expressionWithin, less.primary tokens enough]

/-- A step more changes no items if it changes nothing inside. -/
theorem itemsWithin_enough (tokens : List Token) (enough : 3 * tokens.length < steps + 1) :
    itemsWithin (steps + 2) tokens = itemsWithin (steps + 1) tokens := by
  cases tokens with
  | nil => rfl
  | cons token rest =>
    simp only [itemsWithin, less.expression (token :: rest) (by omega)]
    split
    · rfl
    · -- The item takes a token at least, so that fewer are left for the same steps.
      refine bind_congr_ok ?_
      rintro ⟨item, behind⟩ first
      refine bind_congr_ok fun others separated => ?_
      have shorter := expressionWithin_shorter first
      have shortest : others.length ≤ behind.length := separator_shorter separated
      rw [less.items others (by omega)]

/-- A step more changes no pairs if it changes nothing inside. -/
theorem pairsWithin_enough (tokens : List Token) (enough : 3 * tokens.length < steps + 1) :
    pairsWithin (steps + 2) tokens = pairsWithin (steps + 1) tokens := by
  cases tokens with
  | nil => rfl
  | cons token rest =>
    simp only [pairsWithin]
    split
    · rfl
    · -- A key and a colon take a token each in front of the value.
      refine bind_congr_ok ?_
      rintro ⟨key, behindKey⟩ named
      refine bind_congr_ok fun behindColon assigned => ?_
      obtain ⟨_, same, _⟩ := hashKey_derived named
      obtain ⟨_, rfl, _⟩ := expect_found assigned
      cases same
      simp only [List.length_cons] at enough
      rw [less.expression behindColon (by omega)]
      refine bind_congr_ok ?_
      rintro ⟨value, behind⟩ first
      refine bind_congr_ok fun others separated => ?_
      have shorter := expressionWithin_shorter first
      have shortest : others.length ≤ behind.length := separator_shorter separated
      rw [less.pairs others (by omega)]

end

/-- One step more changes no reading that has steps enough. -/
theorem stepsEnough (steps : Nat) : StepsEnough steps := by
  -- Each reading gives the steps but one to those inside it.
  induction steps with
  | zero => exact stepsEnough_zero
  | succ steps ih =>
    exact ⟨primaryWithin_enough ih, expressionWithin_enough ih, itemsWithin_enough ih,
      pairsWithin_enough ih⟩

/-- What no step changes from some number of them on is the same for all greater numbers. -/
theorem steady {Outcome : Type} (run : Nat → Outcome) {least : Nat}
    (next : ∀ steps, least ≤ steps → run (steps + 1) = run steps) {steps : Nat}
    (enough : least ≤ steps) : run steps = run least := by
  -- One more step changes nothing from the least number on, so no number of steps does.
  induction enough with
  | refl => rfl
  | step enough ih => rw [next _ enough, ih]

section

variable {tokens : List Token} {steps : Nat}

/-- Any steps that are enough read one expression. -/
theorem expressionWithin_eq (enough : 3 * tokens.length ≤ steps) :
    expressionWithin steps tokens = expression tokens := by
  -- Both numbers of steps are enough, so both give what the least number gives.
  have same {steps : Nat} (enough : 3 * tokens.length ≤ steps) :
      expressionWithin steps tokens = expressionWithin (3 * tokens.length) tokens :=
    steady (expressionWithin · tokens) (fun steps => (stepsEnough steps).expression tokens) enough
  rw [same enough, expression, same (Nat.le_add_right _ _)]

/-- Any steps that are enough read the same items. -/
theorem itemsWithin_eq (enough : 3 * tokens.length < steps) :
    itemsWithin steps tokens = listItems tokens :=
  -- Beyond the least number another step changes nothing.
  steady (itemsWithin · tokens) (fun steps => (stepsEnough steps).items tokens) enough

/-- Any steps that are enough read the same pairs. -/
theorem pairsWithin_eq (enough : 3 * tokens.length < steps) :
    pairsWithin steps tokens = hashPairs tokens :=
  -- Beyond the least number another step changes nothing.
  steady (pairsWithin · tokens) (fun steps => (stepsEnough steps).pairs tokens) enough

end

/-- Without tokens there is no expression without members. -/
theorem primaryExpression_nil : primaryExpression [] = .error .tokensEnd := rfl

/-- An expression without members is told by its first token. -/
theorem primaryExpression_cons (token : Token) (rest : List Token) :
    primaryExpression (token :: rest) =
      match token.kind with
      | .string => .ok (.constant token.position (.text token.value), rest)
      | .integer => (integerConstant token).map (·, rest)
      | .float => (floatConstant token).map (·, rest)
      | .name => .ok (namedNode token, rest)
      | .bracketOpen => do
        let (items, rest) ← listItems rest
        .ok (.list token.position items, rest)
      | .braceOpen => do
        let ((keys, values), rest) ← hashPairs rest
        .ok (.hash token.position keys values, rest)
      | _ => refuse .notAnExpression (token :: rest) := by
  -- Only a list and a hash read on inside, and they have steps enough for the tokens behind the
  -- bracket.
  rewrite [primaryExpression, List.length_cons, primaryWithin,
    itemsWithin_eq (by omega), pairsWithin_eq (by omega)]
  rfl

/-- Without tokens there are no items. -/
theorem listItems_nil : listItems [] = .error .tokensEnd := rfl

/-- Items are read one by one, up to the end of their list. -/
theorem listItems_cons (token : Token) (rest : List Token) :
    listItems (token :: rest) =
      if token.kind = .bracketClose then .ok ([], rest)
      else (do
        let (item, rest) ← expression (token :: rest)
        let rest ← separator .bracketClose .listSeparator rest
        let (items, rest) ← listItems rest
        .ok (item :: items, rest)) := by
  rw [listItems, itemsWithin,
    expressionWithin_eq (show 3 * (token :: rest).length ≤ 3 * (token :: rest).length by omega)]
  split
  · rfl
  · -- What an item leaves is short enough for the steps that are left.
    refine bind_congr_ok ?_
    rintro ⟨item, behind⟩ first
    refine bind_congr_ok fun others separated => ?_
    have shorter := expressionWithin_shorter first
    have shortest : others.length ≤ behind.length := separator_shorter separated
    rw [itemsWithin_eq (by omega)]

/-- Without tokens there are no pairs. -/
theorem hashPairs_nil : hashPairs [] = .error .tokensEnd := rfl

/-- Pairs are read one by one, up to the end of their hash. -/
theorem hashPairs_cons (token : Token) (rest : List Token) :
    hashPairs (token :: rest) =
      if token.kind = .braceClose then .ok (([], []), rest)
      else (do
        let (key, rest) ← hashKey (token :: rest)
        let rest ← expect .colon rest
        let (value, rest) ← expression rest
        let rest ← separator .braceClose .hashSeparator rest
        let ((keys, values), rest) ← hashPairs rest
        .ok ((key :: keys, value :: values), rest)) := by
  -- Each part is read from what the part before it left, so the tokens get shorter along the chain
  -- and the steps for the pairs behind are still enough.
  rw [hashPairs, pairsWithin]
  split
  · rfl
  · refine bind_congr_ok ?_
    rintro ⟨key, behindKey⟩ named
    refine bind_congr_ok fun behindColon assigned => ?_
    obtain ⟨_, same, _⟩ := hashKey_derived named
    obtain ⟨_, rfl, _⟩ := expect_found assigned
    cases same
    rw [expressionWithin_eq (by simp only [List.length_cons]; omega)]
    refine bind_congr_ok ?_
    rintro ⟨value, behind⟩ first
    refine bind_congr_ok fun others separated => ?_
    have shorter := expressionWithin_shorter first
    have shortest : others.length ≤ behind.length := separator_shorter separated
    simp only [List.length_cons]
    rw [pairsWithin_eq (by omega)]

end Stencil
