import Stencil.Proofs.Invocation
import Stencil.Proofs.WrittenNodes

/-! Faults of the host program: what a render evaluates raises only what the host put in. -/

namespace Stencil

/-- A value fails with a fault when it is asked for something, or what it holds or answers with
does. -/
inductive Value.Raises (fault : Fault) : Value → Prop
  -- An integer of a host program may have too many digits.
  | digits {number : Int} (failed : Value.integerText number = .error fault) :
    Raises fault (.int number)
  | item {items : List Value} {item : Value} (among : item ∈ items) (inner : Raises fault item) :
    Raises fault (.list items)
  | key {entries : List (Value × Value)} {entry : Value × Value} (among : entry ∈ entries)
    (inner : Raises fault entry.1) : Raises fault (.dict entries)
  | entry {entries : List (Value × Value)} {entry : Value × Value} (among : entry ∈ entries)
    (inner : Raises fault entry.2) : Raises fault (.dict entries)
  -- An object may fail with any answer of its own.
  | print {identity : Nat} {kind : String} {shown : Except Fault String}
    {members items : String → Except Fault Value} :
    Raises fault (.object identity kind (.error fault) shown members items)
  | shown {identity : Nat} {kind : String} {text : Except Fault String}
    {members items : String → Except Fault Value} :
    Raises fault (.object identity kind text (.error fault) members items)
  | member {identity : Nat} {kind : String} {text shown : Except Fault String}
    {members items : String → Except Fault Value} {name : String}
    (failed : members name = .error fault) :
    Raises fault (.object identity kind text shown members items)
  | itemOf {identity : Nat} {kind : String} {text shown : Except Fault String}
    {members items : String → Except Fault Value} {name : String}
    (failed : items name = .error fault) :
    Raises fault (.object identity kind text shown members items)
  | memberValue {identity : Nat} {kind : String} {text shown : Except Fault String}
    {members items : String → Except Fault Value} {name : String} {value : Value}
    (found : members name = .ok value) (inner : Raises fault value) :
    Raises fault (.object identity kind text shown members items)
  | itemValue {identity : Nat} {kind : String} {text shown : Except Fault String}
    {members items : String → Except Fault Value} {name : String} {value : Value}
    (found : items name = .ok value) (inner : Raises fault value) :
    Raises fault (.object identity kind text shown members items)

section

variable {fault : Fault}

/-- A list raises what its items do. -/
theorem Value.raises_list {items : List Value} :
    (Value.list items).Raises fault ↔ ∃ item ∈ items, item.Raises fault := by
  -- A list shows its items, so only they can raise.
  constructor
  · intro raises
    cases raises with
    | item among inner => exact ⟨_, among, inner⟩
  · rintro ⟨item, among, inner⟩
    exact .item among inner

/-- A dictionary raises what its keys and its values do. -/
theorem Value.raises_dict {entries : Dict} :
    (Value.dict entries).Raises fault ↔
      ∃ entry ∈ entries, entry.1.Raises fault ∨ entry.2.Raises fault := by
  -- A mapping shows its keys and its values.
  constructor
  · intro raises
    cases raises with
    | key among inner => exact ⟨_, among, .inl inner⟩
    | entry among inner => exact ⟨_, among, .inr inner⟩
  · rintro ⟨entry, among, inner | inner⟩
    · exact .key among inner
    · exact .entry among inner

/-- A text raises nothing. -/
theorem Value.not_raises_text (words : String) : ¬ (Value.text words).Raises fault :=
  nofun

mutual

/-- A value without a text inside a list or a dictionary raises the fault that it fails with. -/
theorem Value.shown_raises : ∀ {value : Value}, value.shown = .error fault → value.Raises fault
  | .null, failed | .bool _, failed | .float _ _, failed | .text _, failed => by cases failed
  | .int _, failed => .digits failed
  -- A list or a dictionary fails with the first of its texts that does.
  | .list _, failed => by
    rcases bind_eq_error.1 failed with first | ⟨_, _, impossible⟩
    · exact Value.raises_list.2 (Value.shownItems_raises first)
    · cases impossible
  | .dict _, failed => by
    rcases bind_eq_error.1 failed with first | ⟨_, _, impossible⟩
    · exact Value.raises_dict.2 (Value.shownEntries_raises first)
    · cases impossible
  | .object _ _ _ _ _ _, failed => by
    rw [Value.shown] at failed
    subst failed
    exact .shown

/-- Items without texts have one that raises the fault. -/
theorem Value.shownItems_raises : ∀ {items : List Value}, Value.shownItems items = .error fault →
    ∃ item ∈ items, item.Raises fault
  -- The first item whose own text fails is the one that raises. Items behind it are shown only if
  -- it did not.
  | [], failed => by cases failed
  | item :: items, failed => by
    rcases bind_eq_error.1 failed with first | ⟨_, _, behind⟩
    · exact ⟨item, by simp, Value.shown_raises first⟩
    · rcases bind_eq_error.1 behind with others | ⟨_, _, impossible⟩
      · obtain ⟨other, among, inner⟩ := Value.shownItems_raises others
        exact ⟨other, by simp [among], inner⟩
      · cases impossible

/-- Entries without texts have one whose key or value raises the fault. -/
theorem Value.shownEntries_raises : ∀ {entries : Dict}, Value.shownEntries entries = .error fault →
    ∃ entry ∈ entries, entry.1.Raises fault ∨ entry.2.Raises fault
  -- Of each entry the key is shown first, then the value, then the entries behind.
  | [], failed => by cases failed
  | (key, value) :: entries, failed => by
    rcases bind_eq_error.1 failed with first | ⟨_, _, behind⟩
    · exact ⟨(key, value), by simp, .inl (Value.shown_raises first)⟩
    rcases bind_eq_error.1 behind with second | ⟨_, _, behind⟩
    · exact ⟨(key, value), by simp, .inr (Value.shown_raises second)⟩
    rcases bind_eq_error.1 behind with others | ⟨_, _, impossible⟩
    · obtain ⟨other, among, inner⟩ := Value.shownEntries_raises others
      exact ⟨other, by simp [among], inner⟩
    · cases impossible

end

/-- A value without a text raises the fault that it fails with. -/
theorem Value.print_raises {value : Value} (failed : value.print = .error fault) :
    value.Raises fault := by
  -- Only an object has two texts, and either may fail.
  cases value with
  | object =>
    rw [Value.print] at failed
    subst failed
    exact .print
  | text => cases failed
  | _ => exact Value.shown_raises failed

/-- A value that cannot be printed in a template raises the fault that it fails with. -/
theorem Value.output_raises {value : Value} (failed : value.output = .error fault) :
    value.Raises fault := by
  -- A null prints as nothing. Any other value is printed, and what fails is the printing.
  cases value with
  | null => cases failed
  | _ => exact Value.print_raises failed

/-- A value found in a dictionary is one of its values. -/
theorem Dict.mem_of_valueAt? {entries : Dict} {key value : Value}
    (found : Dict.valueAt? entries key = some value) : ∃ known, (known, value) ∈ entries := by
  -- The search returns the value of an entry it has passed by.
  induction entries with
  | nil => cases found
  | cons entry entries ih =>
    simp only [Dict.valueAt?] at found
    split at found
    · cases found
      exact ⟨entry.1, by simp⟩
    · obtain ⟨known, among⟩ := ih found
      exact ⟨known, by simp [among]⟩

/-- What an object has for a member is its attribute, its item or null. -/
theorem Value.member_object (identity : Nat) (kind : String) (text shown : Except Fault String)
    (members items : String → Except Fault Value) (name : String) :
    let answer := (Value.object identity kind text shown members items).member name
    answer = members name ∨ answer = items name ∨ answer = .ok .null := by
  simp only [Value.member]
  cases members name with
  | ok value => exact .inl rfl
  | error lack =>
    simp only
    split
    · -- The item is asked for only if there is no such attribute.
      refine .inr ?_
      cases items name with
      | ok value => exact .inl rfl
      | error fault =>
        simp only [itemOrNull]
        split
        · exact .inr rfl
        · exact .inl rfl
    · exact .inl rfl

/-- A value without a member raises the fault that it fails with. -/
theorem Value.member_raises {value : Value} {name : String}
    (failed : value.member name = .error fault) : value.Raises fault := by
  -- Only an object has a member that fails, with one of its two answers.
  cases value with
  | object identity kind text shown members items =>
    rcases Value.member_object identity kind text shown members items name with
      own | item | nothing
    · exact .member (own.symm.trans failed)
    · exact .itemOf (item.symm.trans failed)
    · cases nothing.symm.trans failed
  | _ => cases failed

/-- A member raises nothing that its value does not. -/
theorem Value.Raises.of_member {value member : Value} {name : String} (raises : member.Raises fault)
    (found : value.member name = .ok member) : value.Raises fault := by
  cases value with
  | object identity kind text shown members items =>
    rcases Value.member_object identity kind text shown members items name with
      own | item | nothing
    · exact .memberValue (own.symm.trans found) raises
    · exact .itemValue (item.symm.trans found) raises
    · -- A null raises nothing.
      cases nothing.symm.trans found
      cases raises
  | dict entries =>
    simp only [Value.member, Except.ok.injEq, Dict.named?] at found
    cases known : Dict.valueAt? entries (.text name) with
    | none =>
      simp only [known, Option.getD_none] at found
      subst found
      cases raises
    | some inner =>
      simp only [known, Option.getD_some] at found
      subst found
      obtain ⟨key, among⟩ := Dict.mem_of_valueAt? known
      exact .entry among raises
  | _ =>
    cases found
    cases raises

/-- Assigning adds the new key and value at most. -/
theorem Dict.mem_parts_assign {entries : Dict} {key value : Value} {entry : Value × Value}
    (member : entry ∈ Dict.assign entries key value) :
    (entry.1 = key ∨ ∃ old, (entry.1, old) ∈ entries) ∧ (entry.2 = value ∨ entry ∈ entries) := by
  -- An assignment keeps the key that is there and puts the new value behind it, or adds an entry at
  -- the end. Each part of the result is either old or one of the two given.
  refine ⟨Dict.mem_assign member, ?_⟩
  induction entries with
  | nil => exact .inl (by rw [List.mem_singleton.1 member])
  | cons first entries ih =>
    simp only [Dict.assign] at member
    split at member
    · rcases List.mem_cons.1 member with same | member
      · exact .inl (by rw [same])
      · exact .inr (by simp [member])
    · rcases List.mem_cons.1 member with same | member
      · exact .inr (by simp [same])
      · exact (ih member).imp id fun among => by simp [among]

/-- What is assigned to a dictionary raises nothing that its parts do not. -/
theorem Value.Raises.of_assign {entries : Dict} {key value : Value}
    (raises : (Value.dict (Dict.assign entries key value)).Raises fault) :
    (Value.dict entries).Raises fault ∨ key.Raises fault ∨ value.Raises fault := by
  -- A part of the new mapping that raises was given or was there before.
  obtain ⟨entry, among, inner⟩ := Value.raises_dict.1 raises
  obtain ⟨keys, values⟩ := Dict.mem_parts_assign among
  rcases inner with inner | inner
  · rcases keys with same | ⟨old, known⟩
    · exact .inr (.inl (same ▸ inner))
    · exact .inl (.key known inner)
  · rcases values with same | known
    · exact .inr (.inr (same ▸ inner))
    · exact .inl (.entry known inner)

/-- Dictionaries laid over one another raise nothing that neither of them does. -/
theorem Value.Raises.of_merge {base added : Dict}
    (raises : (Value.dict (Dict.merge base added)).Raises fault) :
    (Value.dict base).Raises fault ∨ (Value.dict added).Raises fault := by
  induction added generalizing base with
  | nil => exact .inl raises
  | cons entry added ih =>
    rcases ih raises with assigned | later
    · -- The entry in front is assigned first.
      rcases assigned.of_assign with first | key | value
      · exact .inl first
      · exact .inr (.key (by simp) key)
      · exact .inr (.entry (by simp) value)
    · obtain ⟨other, among, inner⟩ := Value.raises_dict.1 later
      exact .inr (Value.raises_dict.2 ⟨other, by simp [among], inner⟩)

/-- The fields of a component raise nothing. -/
theorem Value.Raises.of_componentContext {word : String} {styling : Styling} {base : Dict}
    (raises : (Value.dict (componentContext word styling base)).Raises fault) :
    (Value.dict base).Raises fault := by
  refine raises.of_merge.resolve_right fun fields => ?_
  obtain ⟨entry, among, inner⟩ := Value.raises_dict.1 fields
  -- All of them are texts and lists of texts.
  have texts (words : List String) : ¬ (textList words).Raises fault := fun listed => by
    obtain ⟨item, among, inner⟩ := Value.raises_list.1 listed
    obtain ⟨word, _, rfl⟩ := List.mem_map.1 among
    exact Value.not_raises_text word inner
  obtain ⟨field, named, rfl⟩ := List.mem_map.1 among
  rcases inner with inner | inner
  · exact Value.not_raises_text _ inner
  · simp only [componentFields, List.mem_cons, List.not_mem_nil, or_false] at named
    rcases named with rfl | rfl | rfl | rfl
    · exact Value.not_raises_text _ inner
    · exact Value.not_raises_text _ inner
    · exact texts _ inner
    · exact texts _ inner

/-- A plain value raises nothing. -/
theorem Value.IsPlain.not_raises {value : Value} (plain : value.IsPlain) :
    ¬ value.Raises fault := by
  intro raises
  cases raises with
  | digits failed =>
    -- A plain integer has a text.
    obtain ⟨text, printed⟩ := print_plain plain
    simp [Value.print, Value.shown, failed] at printed
  | _ => exact plain

end

mutual

/-- A constant inside a node raises a fault; only in a tree that is built by hand there is one. -/
def Node.Raises (fault : Fault) : Node → Prop
  -- Only constants carry values, and these are found wherever a node has parts.
  | .constant _ value => value.Raises fault
  | .member _ object _ => object.Raises fault
  | .list _ items => Node.AnyRaises fault items
  | .hash _ keys values => Node.AnyRaises fault keys ∨ Node.AnyRaises fault values
  | .output _ expression => expression.Raises fault
  | .component _ called _ none _ => called.Raises fault
  | .component _ called _ (some given) _ => called.Raises fault ∨ given.Raises fault
  | _ => False

/-- A constant inside one of several nodes raises a fault. -/
def Node.AnyRaises (fault : Fault) : List Node → Prop
  | [] => False
  | node :: nodes => node.Raises fault ∨ Node.AnyRaises fault nodes

end

section

variable {fault : Fault}

/-- A node among others raises what they do. -/
theorem Node.anyRaises_iff {nodes : List Node} :
    Node.AnyRaises fault nodes ↔ ∃ node ∈ nodes, node.Raises fault := by
  -- Induction on the nodes.
  induction nodes with
  | nil => simp [Node.AnyRaises]
  | cons node nodes ih => simp [Node.AnyRaises, ih]

/-- A key as it is written raises nothing. -/
theorem Node.IsKey.not_raises {key : Node} (written : key.IsKey) : ¬ key.Raises fault := by
  -- Keys are strings and short integers, and both can be printed.
  unfold Node.IsKey at written
  split at written
  · exact Value.not_raises_text _
  · exact @Value.IsPlain.not_raises fault (.int _) written
  · exact written.elim

mutual

/-- An expression as it is written raises nothing. -/
theorem Node.IsExpression.not_raises : ∀ {node : Node}, node.IsExpression → ¬ node.Raises fault
  -- Together with the statement about lists, by recursion on the phrase. Constants are the only
  -- leaves that carry a value, and written ones are plain.
  | .constant _ _, written => Value.IsPlain.not_raises written
  | .name _ _, _ => nofun
  | .member _ object _, written => @Node.IsExpression.not_raises object written
  | .list _ items, written => @Node.AreExpressions.not_raises items written
  | .hash _ keys values, written => fun raises => by
    obtain ⟨keysWritten, valuesWritten, _⟩ := written
    rcases raises with raises | raises
    · obtain ⟨key, among, inner⟩ := Node.anyRaises_iff.1 raises
      exact (keysWritten key among).not_raises inner
    · exact Node.AreExpressions.not_raises valuesWritten raises

/-- Expressions as they are written raise nothing. -/
theorem Node.AreExpressions.not_raises : ∀ {nodes : List Node}, Node.AreExpressions nodes →
    ¬ Node.AnyRaises fault nodes
  -- One of the nodes would raise, and none does.
  | [], _ => nofun
  | _ :: _, ⟨head, tail⟩ => fun raises =>
    raises.elim (Node.IsExpression.not_raises head) (Node.AreExpressions.not_raises tail)

end

/-- A node of a body as it is written raises nothing. -/
theorem Node.IsStatement.not_raises {node : Node} (written : node.IsStatement) :
    ¬ node.Raises fault := by
  -- The nodes that hold expressions raise what these do.
  cases node with
  | data => exact nofun
  | output position expression => exact @Node.IsExpression.not_raises fault expression written
  | component position name variant data only =>
    have called := @Node.IsExpression.not_raises fault name written.1
    cases data with
    | none => exact called
    | some given =>
      have supplied := @Node.IsExpression.not_raises fault given (written.2 given rfl)
      exact fun raises => raises.elim called supplied
  | _ => exact written.elim

end

/-- The parts that are collected are the results of outcomes. -/
theorem mem_of_collect {Meaning : Type} {outcomes : List (Except Failure Meaning)}
    {values : List Meaning} (found : collect outcomes = .ok values) {value : Meaning}
    (among : value ∈ values) : .ok value ∈ outcomes := by
  -- The collection succeeds only if each outcome does, and then it holds their values in order.
  induction outcomes generalizing values with
  | nil =>
    cases found
    cases among
  | cons outcome outcomes ih =>
    simp only [collect, bind_eq_ok, Except.ok.injEq] at found
    obtain ⟨first, rfl, others, behind, rfl⟩ := found
    rcases List.mem_cons.1 among with rfl | among
    · simp
    · simp [ih behind among]

/-- The entries that are collected are made of the results of outcomes. -/
theorem mem_of_collectEntries {early : Nat} {keys values : List (Except Failure Value)}
    {entries : Dict} (found : collectEntries early keys values = .ok entries)
    {entry : Value × Value} (among : entry ∈ entries) :
    .ok entry.1 ∈ keys ∧ .ok entry.2 ∈ values := by
  -- Keys and values are taken in pairs, up to the shorter of the two lists.
  induction keys generalizing early values entries with
  | nil =>
    cases found
    cases among
  | cons key keys ih =>
    cases values with
    | nil =>
      cases found
      cases among
    | cons value values =>
      simp only [collectEntries, bind_eq_ok, Except.ok.injEq] at found
      obtain ⟨first, rfl, second, rfl, _, _, others, behind, rfl⟩ := found
      rcases List.mem_cons.1 among with rfl | among
      · simp
      · obtain ⟨known, held⟩ := ih behind among
        exact ⟨by simp [known], by simp [held]⟩

/-- Expressions have their values one by one. -/
theorem Node.values_eq_map (read : String → Except Failure Value) (nodes : List Node) :
    Node.values read nodes = nodes.map (Node.value read) := by
  -- Induction on the nodes.
  induction nodes with
  | nil => rfl
  | cons node nodes ih => rw [Node.values, ih, List.map_cons]

/-- A failure that can be told, and of the kinds that are found without a render. -/
def Failure.IsEarly : Failure → Prop
  -- Only a render makes the first two, and only the host program the third.
  | .diagnostic (.runtime _) | .diagnostic (.undefined _) | .mishap (.untold _ _) => False
  | _ => True

/-- Only a failure that the host program cannot tell has no text. -/
theorem Failure.message_told {failure : Failure} {other : Fault}
    (failed : failure.message = .error other) : ∃ kind, failure = .mishap (.untold kind other) := by
  -- Only one mishap has no text, and it holds what goes wrong instead.
  cases failure with
  | diagnostic report => cases failed
  | mishap accident =>
    cases accident <;> simp only [Failure.message, Mishap.message] at failed <;> cases failed
    exact ⟨_, rfl⟩

/-- A failure that the host program has raised, by a fault that is allowed. -/
def Failure.IsRaised (allowed : Fault → Prop) (failure : Failure) : Prop :=
  ∃ fault, allowed fault ∧ failure = fault.failure

/-- A value raises only faults that are allowed. -/
def Value.RaisesOnly (allowed : Fault → Prop) (value : Value) : Prop :=
  ∀ fault, value.Raises fault → allowed fault

/-- A node raises only faults that are allowed. -/
def Node.RaisesOnly (allowed : Fault → Prop) (node : Node) : Prop :=
  ∀ fault, node.Raises fault → allowed fault

/-- The items of a list raise only what the list does. -/
theorem Node.RaisesOnly.items {allowed : Fault → Prop} {position : Position} {items : List Node}
    (only : (Node.list position items).RaisesOnly allowed) :
    ∀ item ∈ items, item.RaisesOnly allowed :=
  -- What an item raises the list raises.
  fun item among fault raises => only fault (Node.anyRaises_iff.2 ⟨item, among, raises⟩)

/-- The keys and the values of a hash raise only what the hash does. -/
theorem Node.RaisesOnly.pairs {allowed : Fault → Prop} {position : Position}
    {keys values : List Node} (only : (Node.hash position keys values).RaisesOnly allowed) :
    (∀ key ∈ keys, key.RaisesOnly allowed) ∧ ∀ value ∈ values, value.RaisesOnly allowed :=
  -- What a key or a value raises the hash raises.
  ⟨fun key among fault raises => only fault (.inl (Node.anyRaises_iff.2 ⟨key, among, raises⟩)),
    fun value among fault raises =>
      only fault (.inr (Node.anyRaises_iff.2 ⟨value, among, raises⟩))⟩

section

variable {allowed : Fault → Prop} {read : String → Except Failure Value}

/-- A dictionary raises only what is allowed if all of its keys and values do. -/
theorem Value.raisesOnly_dict {entries : Dict} : (Value.dict entries).RaisesOnly allowed ↔
    ∀ entry ∈ entries, entry.1.RaisesOnly allowed ∧ entry.2.RaisesOnly allowed := by
  -- The faults of a mapping are those of its keys and values, no more and no fewer.
  constructor
  · exact fun only entry among =>
      ⟨fun fault raises => only fault (.key among raises),
        fun fault raises => only fault (.entry among raises)⟩
  · intro each fault raises
    obtain ⟨entry, among, inner⟩ := Value.raises_dict.1 raises
    exact inner.elim ((each entry among).1 fault) ((each entry among).2 fault)

/-- Entries that are stored raise only what they raised before. -/
theorem storeEntries_raisesOnly {entries stored : Dict}
    (only : (Value.dict entries).RaisesOnly allowed)
    (found : storeEntries [] entries = .ok stored) :
    (Value.dict stored).RaisesOnly allowed := by
  obtain ⟨_, _, same⟩ := bind_eq_ok.1 found
  cases same
  -- There is nothing below the entries that could raise anything.
  refine fun fault raises => only fault (raises.of_merge.resolve_left fun nothing => ?_)
  obtain ⟨_, among, _⟩ := Value.raises_dict.1 nothing
  cases among

mutual

/-- The value of an expression raises only what its variables and its constants do. -/
theorem Node.value_raisesOnly
    (reads : ∀ word value, read word = .ok value → value.RaisesOnly allowed) :
    ∀ node : Node, node.RaisesOnly allowed → ∀ value, node.value read = .ok value →
      value.RaisesOnly allowed
  | .constant _ _, only, _, rfl => only
  | .name _ word, _, value, found => reads word value found
  | .member _ object word, only, value, found => by
    obtain ⟨inner, evaluated, answered⟩ := bind_eq_ok.1 found
    have whole := Node.value_raisesOnly reads object only inner evaluated
    -- The member is an answer of the object.
    cases member : inner.member word with
    | error fault => simp [member, ofFault] at answered
    | ok answer =>
      simp only [member, ofFault, Except.ok.injEq] at answered
      subst answered
      exact fun fault raises => whole fault (raises.of_member member)
  | .list _ items, only, value, found => by
    obtain ⟨values, collected, same⟩ := bind_eq_ok.1 found
    cases same
    intro fault raises
    obtain ⟨item, among, inner⟩ := Value.raises_list.1 raises
    exact Node.values_raisesOnly reads items only.items item (mem_of_collect collected among) fault
      inner
  | .hash _ keys values, only, value, found => by
    obtain ⟨entries, collected, behind⟩ := bind_eq_ok.1 found
    obtain ⟨stored, kept, same⟩ := bind_eq_ok.1 behind
    cases same
    refine storeEntries_raisesOnly (Value.raisesOnly_dict.2 fun entry among => ?_) kept
    obtain ⟨known, held⟩ := mem_of_collectEntries collected among
    exact ⟨Node.values_raisesOnly reads keys only.pairs.1 entry.1 known,
      Node.values_raisesOnly reads values only.pairs.2 entry.2 held⟩
  | .data .., _, _, found | .output .., _, _, found | .component .., _, _, found
  | .template .., _, _, found => by cases found

/-- The values of expressions raise only what their variables and constants do. -/
theorem Node.values_raisesOnly
    (reads : ∀ word value, read word = .ok value → value.RaisesOnly allowed) :
    ∀ nodes : List Node, (∀ node ∈ nodes, node.RaisesOnly allowed) →
      ∀ value, .ok value ∈ Node.values read nodes → value.RaisesOnly allowed
  -- The value is that of one of the nodes, and the recursion is over the list in step with the one
  -- over the tree.
  | [], _, _, among => by cases among
  | node :: nodes, each, value, among => by
    rcases List.mem_cons.1 among with same | among
    · exact Node.value_raisesOnly reads node (each node (by simp)) value same.symm
    · exact Node.values_raisesOnly reads nodes (fun other member => each other (by simp [member]))
        value among

end

/-- The data of a component adds only entries that raise what is allowed. -/
theorem dataEntries_raisesOnly
    (reads : ∀ word value, read word = .ok value → value.RaisesOnly allowed) {data : Option Node}
    (only : ∀ node ∈ data, node.RaisesOnly allowed) {entries : Dict}
    (found : dataEntries read data = .ok entries) : (Value.dict entries).RaisesOnly allowed := by
  cases data with
  | none =>
    cases found
    exact Value.raisesOnly_dict.2 (by simp)
  | some given =>
    obtain ⟨value, evaluated, shaped⟩ := bind_eq_ok.1 found
    have whole := Node.value_raisesOnly reads given (only given rfl) value evaluated
    -- Only a dictionary is taken for entries, and it is taken as it is.
    cases value with
    | dict inner =>
      cases shaped
      exact whole
    | _ => cases shaped

/-- A component is invoked with a context that raises only what its caller's context and data do. -/
theorem invocation_raisesOnly {Loaded : Type} {around : Surroundings Loaded} {site : Site}
    {frame : Frame} {context : Dict} {name : Node} {variant : Option String} {data : Option Node}
    {cutOff : Bool}
    (reads : ∀ word value, around.lookup frame context word = .ok value →
      value.RaisesOnly allowed)
    (within : (Value.dict context).RaisesOnly allowed)
    (only : ∀ node ∈ data, node.RaisesOnly allowed) {invoked : Loaded × Dict}
    (found : around.invocation site frame context name variant data cutOff = .ok invoked) :
    (Value.dict invoked.2).RaisesOnly allowed := by
  obtain ⟨word, base, styling, _, _, merged, _, same⟩ := invocation_eq_ok.1 found
  obtain ⟨entries, added, laid⟩ := bind_eq_ok.1 merged
  cases laid
  rw [same]
  -- The fields are laid over the data, and the data over the caller's context or nothing.
  intro fault raises
  rcases raises.of_componentContext.of_merge with below | above
  · split at below
    · obtain ⟨_, among, _⟩ := Value.raises_dict.1 below
      cases among
    · refine within fault (below.of_merge.resolve_left fun nothing => ?_)
      obtain ⟨_, among, _⟩ := Value.raises_dict.1 nothing
      cases among
  · exact dataEntries_raisesOnly reads only added fault above

/-- A variable of a context that raises only what is allowed does so itself. -/
theorem lookupIn_raisesOnly {strict : Bool} {frame : Frame} {context : Dict}
    (within : (Value.dict context).RaisesOnly allowed) {word : String} {value : Value}
    (found : lookupIn strict frame context word = .ok value) : value.RaisesOnly allowed := by
  -- A variable that need not be defined may be null, which raises nothing.
  have named : Dict.named? context word = some value ∨ value = .null := by
    unfold lookupIn lookupStrict at found
    split at found
    · split at found
      · cases found
        exact .inl ‹_›
      · cases found
    · cases found
      unfold lookupLenient
      cases Dict.named? context word <;> simp
  rcases named with known | rfl
  · obtain ⟨key, among⟩ := Dict.mem_of_valueAt? known
    exact (Value.raisesOnly_dict.1 within _ among).2
  · exact nofun

end

end Stencil
