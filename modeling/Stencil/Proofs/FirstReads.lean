import Stencil.Proofs.HostFaults

/-! The variables that are read while a node is evaluated, each behind what is evaluated first. -/

namespace Stencil

/-- Evaluating an expression comes to reading a variable: all that is evaluated before has a value,
whatever the variable itself comes to. -/
inductive Node.ComesTo (read : String → Except Failure Value) (word : String) : Node → Prop
  | name (position : Position) : Node.ComesTo read word (.name position word)
  | member {position : Position} {object : Node} {field : String} :
      object.ComesTo read word → Node.ComesTo read word (.member position object field)
  -- The items before this one have been evaluated.
  | item {position : Position} {before after : List Node} {node : Node} {values : List Value} :
      collect (Node.values read before) = .ok values → node.ComesTo read word →
      Node.ComesTo read word (.list position (before ++ node :: after))
  -- The pairs before this one have been evaluated and those of the first batch are stored.
  | key {position : Position} {keys laterKeys values laterValues : List Node} {key value : Node}
      {entries : List (Value × Value)} : keys.length = values.length →
      collectEntries (storedEarly (keys ++ key :: laterKeys).length) (Node.values read keys)
        (Node.values read values) = .ok entries → key.ComesTo read word →
      Node.ComesTo read word
        (.hash position (keys ++ key :: laterKeys) (values ++ value :: laterValues))
  -- The key of a pair is evaluated before its value.
  | value {position : Position} {keys laterKeys values laterValues : List Node} {key value : Node}
      {entries : List (Value × Value)} {found : Value} : keys.length = values.length →
      collectEntries (storedEarly (keys ++ key :: laterKeys).length) (Node.values read keys)
        (Node.values read values) = .ok entries → key.value read = .ok found →
      value.ComesTo read word →
      Node.ComesTo read word
        (.hash position (keys ++ key :: laterKeys) (values ++ value :: laterValues))

section

variable {read : String → Except Failure Value} {word : String} {failure : Failure}

/-- The values of expressions are those of the first ones and then those of the others. -/
theorem Node.values_append (first second : List Node) :
    Node.values read (first ++ second) = Node.values read first ++ Node.values read second := by
  -- Induction on the first list.
  induction first with
  | nil => rfl
  | cons node first ih => simp [Node.values, ih]

/-- Parts are collected in front first, and then behind. -/
theorem collect_append {Meaning : Type} (before after : List (Except Failure Meaning)) :
    collect (before ++ after) =
      collect before >>= fun first => (collect after).map fun second => first ++ second := by
  induction before with
  | nil =>
    have nothing : collect after = (collect after).map fun second => [] ++ second := by
      cases collect after <;> rfl
    exact nothing
  | cons outcome before ih =>
    cases outcome with
    | error failure => rfl
    | ok value =>
      simp only [List.cons_append, collect, ok_bind, ih, bind_assoc]
      -- What is behind is put behind the first part by both sides.
      cases collect before with
      | error failure => rfl
      | ok first => cases collect after <;> rfl

/-- Entries are collected in front first, and then behind, with as many early keys as are left. -/
theorem collectEntries_append {keys values : List (Except Failure Value)}
    (paired : keys.length = values.length) (early : Nat)
    (laterKeys laterValues : List (Except Failure Value)) :
    collectEntries early (keys ++ laterKeys) (values ++ laterValues) =
      collectEntries early keys values >>= fun first =>
        (collectEntries (early - keys.length) laterKeys laterValues).map fun second =>
          first ++ second := by
  induction keys generalizing values early with
  | nil =>
    obtain rfl : values = [] := List.length_eq_zero_iff.1 paired.symm
    have nothing : collectEntries early laterKeys laterValues =
        (collectEntries early laterKeys laterValues).map fun second => [] ++ second := by
      cases collectEntries early laterKeys laterValues <;> rfl
    exact nothing
  | cons key keys ih =>
    cases values with
    | nil => cases paired
    | cons value values =>
      have left : early - (keys.length + 1) = early - 1 - keys.length := by omega
      simp only [List.cons_append, collectEntries, ih (by simpa using paired), bind_assoc, ok_bind,
        List.length_cons, left]
      -- The pair itself is evaluated alike by both sides.
      cases key with
      | error failure => rfl
      | ok key => cases value with
        | error failure => rfl
        | ok value =>
          simp only [ok_bind]
          cases checkEarly early key with
          | error failure => rfl
          | ok _ => cases collectEntries (early - 1) keys values with
            | error failure => rfl
            | ok first =>
              cases collectEntries (early - 1 - keys.length) laterKeys laterValues <;> rfl

/-- An expression fails with the variable that it comes to. -/
theorem Node.ComesTo.value_eq_error {node : Node} (comes : node.ComesTo read word)
    (failed : read word = .error failure) : node.value read = .error failure := by
  -- Induction on the way to the word: what is evaluated before it has succeeded, so the failure of
  -- the lookup is the first one there is.
  induction comes with
  | name position => exact failed
  | member _ ih => simp only [Node.value, ih, error_bind]
  | item found _ ih =>
    simp only [Node.value, Node.values_append, Node.values, collect_append, found, ok_bind, collect,
      ih, error_bind, map_error]
  | key paired found _ ih =>
    have lengths : (Node.values read _).length = (Node.values read _).length :=
      (Node.values_length ..).trans (paired.trans (Node.values_length ..).symm)
    simp only [Node.value, Node.values_append, Node.values, collectEntries_append lengths, found,
      ok_bind, collectEntries, ih, error_bind, map_error]
  | value paired found known _ ih =>
    have lengths : (Node.values read _).length = (Node.values read _).length :=
      (Node.values_length ..).trans (paired.trans (Node.values_length ..).symm)
    simp only [Node.value, Node.values_append, Node.values, collectEntries_append lengths, found,
      ok_bind, collectEntries, known, ih, error_bind, map_error]

/-- Parts fail where the first of them does. -/
theorem collect_failed {Meaning : Type} {outcomes : List (Except Failure Meaning)}
    (failed : collect outcomes = .error failure) :
    ∃ before after values, outcomes = before ++ .error failure :: after ∧
      collect before = .ok values := by
  -- The collection stops at the first failure, and all outcomes before it have given values.
  induction outcomes with
  | nil => cases failed
  | cons outcome outcomes ih =>
    rcases bind_eq_error.1 failed with rfl | ⟨value, rfl, behind⟩
    · exact ⟨[], outcomes, [], rfl, rfl⟩
    · rcases bind_eq_error.1 behind with others | ⟨_, _, impossible⟩
      · obtain ⟨before, after, values, rfl, found⟩ := ih others
        exact ⟨.ok value :: before, after, value :: values, rfl, by simp [collect, found]⟩
      · cases impossible

/-- What cannot be a key is a mishap of its own. -/
theorem checkKey_failed {key : Value} (failed : checkKey key = .error failure) :
    failure.IsEarly := by
  -- A key is refused for its kind, which is told before any lookup.
  unfold checkKey at failed
  split at failed
  · cases failed
  · cases failed
    trivial

/-- What cannot be an early key is such a mishap. -/
theorem checkEarly_failed {early : Nat} {key : Value}
    (failed : checkEarly early key = .error failure) : failure.IsEarly := by
  unfold checkEarly at failed
  -- Keys that are not early are not checked yet.
  split at failed
  · exact checkKey_failed failed
  · cases failed

/-- Entries that cannot be stored are such a mishap. -/
theorem storeEntries_failed {base : Dict} {entries : List (Value × Value)}
    (failed : storeEntries base entries = .error failure) : failure.IsEarly := by
  rcases bind_eq_error.1 failed with refused | ⟨_, _, impossible⟩
  · -- Only the check of the keys may fail, and that with the first bad one.
    induction entries with
    | nil => cases refused
    | cons entry entries ih =>
      rcases bind_eq_error.1 refused with first | ⟨_, _, others⟩
      · exact checkKey_failed first
      · exact ih (bind_eq_error.2 (.inl others)) others
  · cases impossible

/-- Entries fail where the first key or value does, or else because a key cannot be one. -/
theorem collectEntries_failed {early : Nat} {keys values : List (Except Failure Value)}
    (failed : collectEntries early keys values = .error failure) :
    failure.IsEarly ∨ ∃ firstKeys key laterKeys firstValues value laterValues entries,
      keys = firstKeys ++ key :: laterKeys ∧ values = firstValues ++ value :: laterValues ∧
      firstKeys.length = firstValues.length ∧
      collectEntries early firstKeys firstValues = .ok entries ∧
      (key = .error failure ∨ ∃ found, key = .ok found ∧ value = .error failure) := by
  -- The pairs are evaluated in order, each key before its value.
  induction keys generalizing values early with
  | nil => cases failed
  | cons key keys ih =>
    cases values with
    | nil => cases failed
    | cons value values =>
      cases key with
      | error other =>
        cases failed
        exact .inr ⟨[], _, keys, [], value, values, [], rfl, rfl, rfl, rfl, .inl rfl⟩
      | ok found => cases value with
        | error other =>
          cases failed
          exact .inr ⟨[], _, keys, [], _, values, [], rfl, rfl, rfl, rfl, .inr ⟨found, rfl, rfl⟩⟩
        | ok kept =>
          simp only [collectEntries, ok_bind] at failed
          rcases bind_eq_error.1 failed with refused | ⟨_, checked, behind⟩
          · exact .inl (checkEarly_failed refused)
          rcases bind_eq_error.1 behind with others | ⟨_, _, impossible⟩
          · rcases ih others with kind | ⟨firstKeys, last, laterKeys, firstValues, final,
              laterValues, entries, rfl, rfl, paired, collected, stopped⟩
            · exact .inl kind
            · -- The pair is put in front of those that the others have in front.
              exact .inr ⟨.ok found :: firstKeys, last, laterKeys, .ok kept :: firstValues, final,
                laterValues, (found, kept) :: entries, rfl, rfl, by simp [paired],
                by simp [collectEntries, checked, collected], stopped⟩
          · cases impossible

/-- An answer of the host program that fails was raised by it. -/
theorem ofFault_failed {allowed : Fault → Prop} {Meaning : Type} {outcome : Except Fault Meaning}
    (only : ∀ fault, outcome = .error fault → allowed fault)
    (failed : ofFault outcome = .error failure) : failure.IsRaised allowed := by
  -- A fault the host may raise is passed on as it is.
  cases outcome with
  | ok meaning => cases failed
  | error fault =>
    cases failed
    exact ⟨fault, only fault rfl, rfl⟩

/-- Expressions that are not collected have a first one that fails. -/
theorem Node.collect_stopped {nodes : List Node}
    (failed : collect (Node.values read nodes) = .error failure) :
    ∃ before node after values, nodes = before ++ node :: after ∧
      collect (Node.values read before) = .ok values ∧ node.value read = .error failure := by
  -- The outcomes are those of the nodes, so they split where the nodes do.
  obtain ⟨before, after, values, split, found⟩ := collect_failed failed
  rw [Node.values_eq_map] at split
  obtain ⟨first, others, rfl, rfl, behind⟩ := List.map_eq_append_iff.1 split
  obtain ⟨node, rest, rfl, missing, rfl⟩ := List.map_eq_cons_iff.1 behind
  rw [← Node.values_eq_map] at found
  exact ⟨first, node, rest, values, rfl, found, missing⟩

/-- Pairs of expressions that are not collected have a first key or value that fails, or else a key
that cannot be one. -/
theorem Node.collectEntries_stopped {early : Nat} {keys values : List Node}
    (failed : collectEntries early (Node.values read keys) (Node.values read values) =
      .error failure) :
    failure.IsEarly ∨ ∃ firstKeys key laterKeys firstValues value laterValues entries,
      keys = firstKeys ++ key :: laterKeys ∧ values = firstValues ++ value :: laterValues ∧
      firstKeys.length = firstValues.length ∧
      collectEntries early (Node.values read firstKeys) (Node.values read firstValues) =
        .ok entries ∧
      (key.value read = .error failure ∨
        ∃ found, key.value read = .ok found ∧ value.value read = .error failure) := by
  rcases collectEntries_failed failed with kind | ⟨_, _, _, _, _, _, entries, keySplit, valueSplit,
    paired, found, missing⟩
  · exact .inl kind
  -- Keys and values split at the same pair, as their outcomes do.
  rw [Node.values_eq_map] at keySplit valueSplit
  obtain ⟨firstKeys, _, rfl, rfl, keysBehind⟩ := List.map_eq_append_iff.1 keySplit
  obtain ⟨key, laterKeys, rfl, rfl, rfl⟩ := List.map_eq_cons_iff.1 keysBehind
  obtain ⟨firstValues, _, rfl, rfl, valuesBehind⟩ := List.map_eq_append_iff.1 valueSplit
  obtain ⟨value, laterValues, rfl, rfl, rfl⟩ := List.map_eq_cons_iff.1 valuesBehind
  rw [← Node.values_eq_map, ← Node.values_eq_map] at found
  exact .inr ⟨firstKeys, key, laterKeys, firstValues, value, laterValues, entries, rfl, rfl,
    by simpa using paired, found, missing⟩

/-- A failure comes from one of the variables that are asked for, is found without a render, or was
raised by the host program. -/
inductive Failure.ComesFrom (asks : String → Prop) (read : String → Except Failure Value)
    (allowed : Fault → Prop) (failure : Failure) : Prop
  | missed {word : String} (asked : asks word) (absent : read word = .error failure)
  | early (early : failure.IsEarly)
  | raised (raised : failure.IsRaised allowed)

variable {allowed : Fault → Prop}

/-- What comes from a part comes from the whole, which asks for all that the part does. -/
theorem Failure.ComesFrom.within {asks others : String → Prop}
    (part : failure.ComesFrom asks read allowed) (more : ∀ word, asks word → others word) :
    failure.ComesFrom others read allowed := by
  -- Only a variable is asked for by anything.
  cases part with
  | missed asked absent => exact .missed (more _ asked) absent
  | early early => exact .early early
  | raised raised => exact .raised raised

mutual

/-- An expression that fails does so with a variable that it comes to, or for a key that cannot be
one, or as the host program has raised it. -/
theorem Node.value_failed
    (reads : ∀ word value, read word = .ok value → value.RaisesOnly allowed) :
    ∀ node : Node, node.RaisesOnly allowed → node.value read = .error failure →
      failure.ComesFrom (fun word => node.ComesTo read word) read allowed
  | .constant _ _, _, failed => by cases failed
  | .name position _, _, failed => .missed (.name position) failed
  | .member position object field, only, failed => by
    rcases bind_eq_error.1 failed with first | ⟨value, evaluated, fault⟩
    · exact (Node.value_failed reads object only first).within fun _ comes => .member comes
    · -- The object has a value, which raises what its members do.
      have whole := Node.value_raisesOnly reads object only value evaluated
      exact .raised (ofFault_failed (fun other raised => whole other (Value.member_raises raised))
        fault)
  | .list position items, only, failed => by
    have each := Node.values_failed reads items only.items
    rcases bind_eq_error.1 failed with stopped | ⟨_, _, impossible⟩
    · obtain ⟨before, node, after, values, rfl, found, missing⟩ := Node.collect_stopped stopped
      exact (each node (by simp) missing).within fun _ comes => .item found comes
    · cases impossible
  | .hash position keys values, only, failed => by
    have eachKey := Node.values_failed reads keys only.pairs.1
    have eachValue := Node.values_failed reads values only.pairs.2
    rcases bind_eq_error.1 failed with stopped | ⟨_, _, behind⟩
    · rcases Node.collectEntries_stopped stopped with kind | ⟨_, key, _, _, value, _, _, rfl, rfl,
        paired, found, missing⟩
      · exact .early kind
      -- The failing part is a key, or the value of a key that has been evaluated.
      rcases missing with unknown | ⟨_, known, unkept⟩
      · exact (eachKey key (by simp) unknown).within fun _ comes => .key paired found comes
      · exact (eachValue value (by simp) unkept).within fun _ comes =>
          .value paired found known comes
    · rcases bind_eq_error.1 behind with refused | ⟨_, _, impossible⟩
      · exact .early (storeEntries_failed refused)
      · cases impossible
  | .data .., _, failed | .output .., _, failed | .component .., _, failed
  | .template .., _, failed => by
    cases failed
    exact .early trivial

/-- Each of several expressions that fails does so in one of these ways. -/
theorem Node.values_failed
    (reads : ∀ word value, read word = .ok value → value.RaisesOnly allowed) :
    ∀ nodes : List Node, (∀ node ∈ nodes, node.RaisesOnly allowed) →
      ∀ node ∈ nodes, node.value read = .error failure →
        failure.ComesFrom (fun word => node.ComesTo read word) read allowed
  -- The node is one of the list, and the recursion walks to it in step with the one over the tree.
  | [], _, _, among, _ => absurd among (by simp)
  | first :: nodes, only, node, among, failed => by
    rcases List.mem_cons.1 among with same | among
    · rw [same] at failed ⊢
      exact Node.value_failed reads first (only first (by simp)) failed
    · exact Node.values_failed reads nodes (fun other member => only other (by simp [member])) node
        among failed

end

/-- An expression that is not printed fails in one of these ways, its text included. -/
theorem Node.printed_failed
    (reads : ∀ word value, read word = .ok value → value.RaisesOnly allowed) {node : Node}
    (only : node.RaisesOnly allowed) (failed : node.printed read = .error failure) :
    failure.ComesFrom (fun word => node.ComesTo read word) read allowed := by
  -- Printing evaluates first. If that succeeds, only the text of the value can fail.
  rcases bind_eq_error.1 failed with missing | ⟨value, evaluated, fault⟩
  · exact Node.value_failed reads node only missing
  · have whole := Node.value_raisesOnly reads node only value evaluated
    exact .raised (ofFault_failed (fun other raised => whole other (Value.output_raises raised))
      fault)

end

end Stencil
