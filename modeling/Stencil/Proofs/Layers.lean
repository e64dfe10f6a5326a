import Stencil.Proofs.ComponentNames

/-! The context of a component is laid in layers: its fields, its data, and what it sees. -/

namespace Stencil

/-- The last value under a key among entries that may repeat it. -/
def Dict.lastAt? : Dict → Value → Option Value
  | [], _ => none
  | (known, value) :: entries, key =>
    (Dict.lastAt? entries key).or (if known.sameKey key then some value else none)

/-- What is laid over a dictionary is found first, by its last entry, and all else as before. -/
theorem Dict.valueAt?_merge (base added : Dict) (key : Value) :
    Dict.valueAt? (Dict.merge base added) key =
      (Dict.lastAt? added key).or (Dict.valueAt? base key) := by
  -- The entries are assigned one by one, so that the base grows along the induction.
  induction added generalizing base with
  | nil => rfl
  | cons entry added ih =>
    obtain ⟨known, value⟩ := entry
    have assigned := Dict.valueAt?_assign base known value key
    calc Dict.valueAt? (Dict.merge base ((known, value) :: added)) key
        = (Dict.lastAt? added key).or (Dict.valueAt? (Dict.assign base known value) key) :=
          ih (Dict.assign base known value)
      _ = (Dict.lastAt? ((known, value) :: added) key).or (Dict.valueAt? base key) := by
          rw [assigned, Dict.lastAt?]
          split <;> simp

/-- A dictionary of entries has the last of them under each key. -/
theorem Dict.valueAt?_ofEntries (entries : Dict) (key : Value) :
    Dict.valueAt? (Dict.ofEntries entries) key = Dict.lastAt? entries key := by
  -- The entries are merged over nothing.
  have laid := Dict.valueAt?_merge [] entries key
  simpa [Dict.ofEntries, Dict.valueAt?] using laid

/-- Where keys are apart, the first value under a key is also the last. -/
theorem Dict.Distinct.lastAt?_eq {entries : Dict} (distinct : Dict.Distinct entries) (key : Value) :
    Dict.lastAt? entries key = Dict.valueAt? entries key := by
  -- There is one entry at most, so the last is the first.
  rw [← Dict.valueAt?_ofEntries, Dict.ofEntries_self distinct]

/-- The dictionary of entries has no key twice. -/
theorem Dict.ofEntries_distinct (entries : Dict) : Dict.Distinct (Dict.ofEntries entries) :=
  -- Nothing has no key twice, and laying entries over it keeps that.
  Dict.Distinct.merge .nil entries

/-- A context holds the computed fields of a component, and under any other key the last pair of
its data, or else what the component sees besides. -/
structure Dict.IsScope (inner : Dict) (word : String) (styling : Styling)
    (pairs : List (Value × Value)) (seen : Value → Option Value) : Prop where
  name : Dict.named? inner "name" = some (.text word)
  className : Dict.named? inner "className" = some (.text (className word styling))
  classes : Dict.named? inner "classes" = some (textList styling.classes)
  modifiers : Dict.named? inner "modifiers" = some (textList styling.modifiers)
  -- Of the data a later pair counts, and what was seen before is beneath all of it.
  others : ∀ key,
    (∀ name ∈ ["name", "className", "classes", "modifiers"],
      (Value.text name).sameKey key = false) →
    Dict.valueAt? inner key = (Dict.lastAt? pairs key).or (seen key)

/-- Computed fields are laid over whatever a component is invoked with. -/
theorem componentContext_scope (word : String) (styling : Styling) {base : Dict}
    {pairs : List (Value × Value)} {seen : Value → Option Value}
    (under : ∀ key, Dict.valueAt? base key = (Dict.lastAt? pairs key).or (seen key)) :
    (componentContext word styling base).IsScope word styling pairs seen := by
  have laid (key : Value) :=
    Dict.valueAt?_merge base (namedEntries (componentFields word styling)) key
  refine ⟨(laid _).trans ?_, (laid _).trans ?_, (laid _).trans ?_, (laid _).trans ?_,
    fun key apart => (laid key).trans ?_⟩
  -- The names of the fields differ, so that each is found by its own.
  · simp [namedEntries, componentFields, Dict.lastAt?]
  · simp [namedEntries, componentFields, Dict.lastAt?]
  · simp [namedEntries, componentFields, Dict.lastAt?]
  · simp [namedEntries, componentFields, Dict.lastAt?]
  · -- A key that is none of the names is left to what lies under the fields.
    have absent : Dict.lastAt? (namedEntries (componentFields word styling)) key = none := by
      simp [namedEntries, componentFields, Dict.lastAt?, apart]
    rw [absent, under]
    rfl

/-- The pairs of data, each key and each value evaluated by itself; no data has no pairs. -/
def DataPairs (read : String → Except Failure Value) :
    Option Node → List (Value × Value) → Prop
  | none, pairs => pairs = []
  | some (.hash _ keys values), pairs =>
    Node.values read keys = pairs.map (fun pair => .ok pair.1) ∧
      Node.values read values = pairs.map fun pair => .ok pair.2
  | _, _ => False

/-- Data has no more than one list of pairs. -/
theorem DataPairs.unique {read : String → Except Failure Value} {data : Option Node}
    {pairs others : List (Value × Value)} (first : DataPairs read data pairs)
    (second : DataPairs read data others) : pairs = others := by
  -- Pairs with the same keys and the same values are the same.
  have ext (pairs others : List (Value × Value))
      (keys : pairs.map (fun pair => (.ok pair.1 : Except Failure Value)) =
        others.map fun pair => .ok pair.1)
      (values : pairs.map (fun pair => (.ok pair.2 : Except Failure Value)) =
        others.map fun pair => .ok pair.2) : pairs = others := by
    induction pairs generalizing others with
    | nil => cases others with
      | nil => rfl
      | cons other others => cases keys
    | cons pair pairs ih => cases others with
      | nil => cases keys
      | cons other others =>
        simp only [List.map_cons, List.cons.injEq, Except.ok.injEq] at keys values
        rw [ih others keys.2 values.2, Prod.ext keys.1 values.1]
  unfold DataPairs at first second
  split at first
  · rw [first, second]
  · exact ext pairs others (first.1.symm.trans second.1) (first.2.symm.trans second.2)
  · exact first.elim

/-- Entries that are collected are all keys and all values in order. -/
theorem collectEntries_eq_ok {early : Nat} {keys values : List (Except Failure Value)}
    {entries : List (Value × Value)} (paired : keys.length = values.length)
    (collected : collectEntries early keys values = .ok entries) :
    keys = entries.map (fun entry => .ok entry.1) ∧
      values = entries.map fun entry => .ok entry.2 := by
  -- The count of early keys falls with each pair, so it has to stay free.
  induction keys generalizing values early entries with
  | nil =>
    cases values with
    | nil =>
      cases collected
      exact ⟨rfl, rfl⟩
    | cons value values => cases paired
  | cons key keys ih =>
    cases values with
    | nil => cases paired
    | cons value values =>
      simp only [collectEntries, bind_eq_ok] at collected
      obtain ⟨first, rfl, second, rfl, _, _, rest, found, same⟩ := collected
      cases same
      obtain ⟨left, right⟩ := ih (by simpa using paired) found
      simp [← left, ← right]

/-- Pairs that give a styling have as many values as keys. -/
theorem pairsStyling_paired {keys values : List Node} {styling : Styling}
    (styled : pairsStyling keys values = .ok styling) : keys.length = values.length := by
  -- Induction on both lists: styling fails where one of them ends first.
  induction keys generalizing values styling with
  | nil =>
    cases values with
    | nil => rfl
    | cons value values => cases styled
  | cons key keys ih =>
    cases values with
    | nil => cases styled
    | cons value values =>
      simp only [pairsStyling, bind_eq_ok] at styled
      obtain ⟨_, _, _, others, _⟩ := styled
      simp [ih others]

/-- Data with a styling adds the dictionary of its pairs. -/
theorem dataEntries_pairs {read : String → Except Failure Value} {data : Option Node}
    {styling : Styling} (styled : stylingOf data = .ok styling) {added : Dict}
    (found : dataEntries read data = .ok added) :
    ∃ pairs, DataPairs read data pairs ∧ added = Dict.ofEntries pairs := by
  unfold stylingOf at styled
  split at styled
  · -- Without data nothing is added.
    cases found
    exact ⟨[], rfl, rfl⟩
  · rename_i position keys values
    simp only [dataEntries, Node.value, storeEntries, bind_eq_ok] at found
    obtain ⟨value, ⟨entries, collected, stored, ⟨_, _, same⟩, hash⟩, entered⟩ := found
    cases same
    cases hash
    cases entered
    have paired : (Node.values read keys).length = (Node.values read values).length := by
      rw [Node.values_length, Node.values_length, pairsStyling_paired styled]
    exact ⟨entries, collectEntries_eq_ok paired collected, rfl⟩
  · cases styled

/-- Data lies over the context of the caller, unless that is cut off. -/
theorem Site.mergeBase_valueAt? {site : Site} {read : String → Except Failure Value}
    {context base : Dict} (distinct : Dict.Distinct context) {data : Option Node} {only : Bool}
    {styling : Styling} (styled : stylingOf data = .ok styling)
    (merged : site.mergeBase read context data only = .ok base) :
    ∃ pairs, DataPairs read data pairs ∧ ∀ key, Dict.valueAt? base key =
      (Dict.lastAt? pairs key).or
        (if site.cutsOff only then none else Dict.valueAt? context key) := by
  simp only [Site.mergeBase, bind_eq_ok] at merged
  obtain ⟨added, found, same⟩ := merged
  cases same
  obtain ⟨pairs, evaluated, rfl⟩ := dataEntries_pairs styled found
  refine ⟨pairs, evaluated, fun key => ?_⟩
  rw [Dict.valueAt?_merge, (Dict.ofEntries_distinct pairs).lastAt?_eq, Dict.valueAt?_ofEntries]
  -- A copy of the caller's context is that context, as it has no key twice.
  split
  · rfl
  · rw [Dict.ofEntries_self distinct]

end Stencil
