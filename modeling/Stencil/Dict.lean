import Stencil.Value

/-! Dictionaries: values under keys, in the order of their first entry; and the members of values.
-/

namespace Stencil

/-- What makes a value a key: a number counts by its exact size, all else by what it is. -/
inductive Key
  | null
  | text (text : String)
  -- Booleans, integers and doubles share their keys: equal numbers are one key.
  | number (numerator : Int) (halvings : Nat)
  | infinity (negative : Bool)
  -- No such number is equal to another one, so it is found by its identity alone.
  | notANumber (identity : Nat)
  | object (identity : Nat)
  deriving DecidableEq

/-- A number that is halved so many times, in its lowest terms. -/
def lowestTerms (numerator : Nat) : Nat → Nat × Nat
  | 0 => (numerator, 0)
  | halvings + 1 =>
    if numerator % 2 = 0 then lowestTerms (numerator / 2) halvings else (numerator, halvings + 1)

/-- The key that a double is; what is no number is told apart by its identity. -/
def doubleKey (identity : Nat) (number : Float) : Key :=
  match magnitude number with
  | .finite mantissa exponent =>
    let (numerator, halvings) :=
      lowestTerms (mantissa * twoTo exponent.toNat) (-exponent).toNat
    .number (if isNegative number then -numerator else numerator) halvings
  | .infinite => .infinity (isNegative number)
  | .notANumber => .notANumber identity

/-- The key that a value is; truth values count as one and zero. -/
def Value.key? : Value → Option Key
  | .null => some .null
  | .bool value => some (.number (if value then 1 else 0) 0)
  | .int value => some (.number value 0)
  | .float identity value => some (doubleKey identity value)
  | .text value => some (.text value)
  | .object identity _ _ _ _ _ => some (.object identity)
  | .list _ | .dict _ => none

/-- Whether a value can stand as a key. -/
def Value.isKey : Value → Bool
  | .list _ | .dict _ => false
  | _ => true

/-- Whether two values are the same key. -/
def Value.sameKey : Value → Value → Bool
  -- Most keys are texts, which need no key beside themselves.
  | .text left, .text right => left = right
  | left, right => left.key?.isSome && left.key? = right.key?

/-- Two values are the same key if they have one key. -/
theorem Value.sameKey_eq (left right : Value) :
    left.sameKey right = (left.key?.isSome && left.key? = right.key?) := by
  -- Two values are the same key just if both can be keys and are equal as such.
  unfold Value.sameKey
  split <;> simp [Value.key?]

/-- Being the same key is symmetric. -/
theorem Value.sameKey_comm (left right : Value) : left.sameKey right = right.sameKey left := by
  -- Where the keys differ both comparisons fail, and where they are equal both ask whether there is
  -- a key at all.
  rw [Value.sameKey_eq, Value.sameKey_eq]
  by_cases same : left.key? = right.key?
  · simp [same]
  · simp [same, Ne.symm same]

/-- What is the same key as another value is the same key as all that the other one is. -/
theorem Value.sameKey_congr {left right : Value} (same : left.sameKey right = true)
    (other : Value) : left.sameKey other = right.sameKey other := by
  -- The two have the same key, so they compare alike with any third value.
  simp only [Value.sameKey_eq, Bool.and_eq_true, decide_eq_true_eq] at same
  rw [Value.sameKey_eq, Value.sameKey_eq, same.2]

/-- Two texts are the same key if they are equal. -/
@[simp] theorem Value.sameKey_text (left right : String) :
    (Value.text left).sameKey (.text right) = decide (left = right) := by
  -- Texts are keys, and equal as such.
  simp [Value.sameKey]

/-- Entries of a dictionary in order. -/
abbrev Dict := List (Value × Value)

/-- The value under a key. -/
def Dict.valueAt? : Dict → Value → Option Value
  | [], _ => none
  | (known, value) :: entries, key =>
    if known.sameKey key then some value else Dict.valueAt? entries key

/-- The value under a name. -/
def Dict.named? (entries : Dict) (name : String) : Option Value :=
  Dict.valueAt? entries (.text name)

/-- The dictionary with a value under a key; an equal key keeps its place and spelling. -/
def Dict.assign : Dict → Value → Value → Dict
  | [], key, value => [(key, value)]
  | (known, old) :: entries, key, value =>
    if known.sameKey key then (known, value) :: entries
    else (known, old) :: Dict.assign entries key value

/-- What is assigned is found under its key, and all else as before. -/
theorem Dict.valueAt?_assign (entries : Dict) (key value other : Value) :
    (Dict.assign entries key value).valueAt? other =
      if key.sameKey other then some value else Dict.valueAt? entries other := by
  induction entries with
  | nil => simp [Dict.assign, Dict.valueAt?]
  | cons entry entries ih =>
    obtain ⟨known, old⟩ := entry
    by_cases same : known.sameKey key = true
    · -- The entry in place is found by whatever the new key is found by.
      simp only [Dict.assign, same, if_true, Dict.valueAt?, Value.sameKey_congr same other]
      by_cases found : key.sameKey other = true <;> simp [found]
    · simp only [Dict.assign, same, Bool.false_eq_true, if_false, Dict.valueAt?, ih]
      by_cases found : key.sameKey other = true
      · -- An entry found by the key that is looked up would be the same key as the new one.
        have apart : known.sameKey other = false := by
          rw [Value.sameKey_comm, ← Value.sameKey_congr found, Value.sameKey_comm]
          simpa using same
        simp [found, apart]
      · simp [found]

/-- A dictionary with the entries of another one over it. -/
def Dict.merge (base added : Dict) : Dict :=
  added.foldl (fun entries entry => Dict.assign entries entry.1 entry.2) base

/-- The dictionary of entries in order, in which later values replace earlier ones. -/
def Dict.ofEntries (entries : List (Value × Value)) : Dict :=
  Dict.merge [] entries

/-- No two entries have the same key. -/
def Dict.Distinct (entries : Dict) : Prop :=
  entries.Pairwise fun first second => first.1.sameKey second.1 = false

/-- A key that is new goes to the end. -/
theorem Dict.assign_new {entries : Dict} {key : Value}
    (absent : ∀ entry ∈ entries, entry.1.sameKey key = false) (value : Value) :
    Dict.assign entries key value = entries ++ [(key, value)] := by
  -- No entry is replaced on the way to the end.
  induction entries with
  | nil => rfl
  | cons entry entries ih =>
    have head : entry.1.sameKey key = false := absent entry (by simp)
    have tail := ih fun other member => absent other (by simp [member])
    simp [Dict.assign, head, tail]

/-- Assigning changes no key and adds at most the new one. -/
theorem Dict.mem_assign {entries : Dict} {key value : Value} {entry : Value × Value}
    (member : entry ∈ Dict.assign entries key value) :
    entry.1 = key ∨ ∃ old, (entry.1, old) ∈ entries := by
  -- The entry that is changed keeps its old key. The new key comes only with an entry of its own,
  -- at the end.
  induction entries with
  | nil =>
    simp only [Dict.assign, List.mem_singleton] at member
    exact .inl (by rw [member])
  | cons first entries ih =>
    simp only [Dict.assign] at member
    split at member
    · rcases List.mem_cons.1 member with same | member
      · exact .inr ⟨first.2, by simp [same]⟩
      · exact .inr ⟨entry.2, by simp [member]⟩
    · rcases List.mem_cons.1 member with same | member
      · exact .inr ⟨first.2, by simp [same]⟩
      · rcases ih member with same | ⟨old, found⟩
        · exact .inl same
        · exact .inr ⟨old, by simp [found]⟩

/-- Assigning keeps the keys apart. -/
theorem Dict.Distinct.assign {entries : Dict} (distinct : Dict.Distinct entries)
    (key value : Value) : Dict.Distinct (Dict.assign entries key value) := by
  -- Replacing keeps all keys. A new one is added only after it was compared with every other.
  induction entries with
  | nil => simp [Dict.Distinct, Dict.assign]
  | cons first entries ih =>
    obtain ⟨apart, distinct⟩ := List.pairwise_cons.1 distinct
    by_cases same : first.1.sameKey key = true
    · simp only [Dict.assign, same, if_true]
      exact List.pairwise_cons.2 ⟨apart, distinct⟩
    · simp only [Dict.assign, same, Bool.false_eq_true, if_false]
      refine List.pairwise_cons.2 ⟨fun entry member => ?_, ih distinct⟩
      rcases Dict.mem_assign member with new | ⟨old, found⟩
      · simpa [new] using same
      · exact apart (entry.1, old) found

/-- Laying entries over a dictionary keeps its keys apart. -/
theorem Dict.Distinct.merge {base : Dict} (distinct : Dict.Distinct base) (added : Dict) :
    Dict.Distinct (Dict.merge base added) := by
  -- A merge is a sequence of assignments.
  induction added generalizing base with
  | nil => exact distinct
  | cons entry added ih => exact ih (distinct.assign entry.1 entry.2)

/-- Entries whose keys are apart are laid behind one another. -/
theorem Dict.merge_eq_append {base added : Dict} (distinct : Dict.Distinct (base ++ added)) :
    Dict.merge base added = base ++ added := by
  -- No added key is there already, neither in the base nor among those added before it.
  induction added generalizing base with
  | nil => simp [Dict.merge]
  | cons entry added ih =>
    have absent : ∀ other ∈ base, other.1.sameKey entry.1 = false := fun other member =>
      (List.pairwise_append.1 distinct).2.2 other member entry (by simp)
    have next : Dict.Distinct ((base ++ [(entry.1, entry.2)]) ++ added) := by
      simpa using distinct
    calc Dict.merge base (entry :: added)
        = Dict.merge (base ++ [(entry.1, entry.2)]) added := by
          rw [← Dict.assign_new absent entry.2]
          rfl
      _ = base ++ entry :: added := by
          rw [ih next]
          simp

/-- A copy of a dictionary whose keys are apart is the dictionary. -/
theorem Dict.ofEntries_self {entries : Dict} (distinct : Dict.Distinct entries) :
    Dict.ofEntries entries = entries :=
  -- Laying distinct entries over nothing changes nothing.
  @Dict.merge_eq_append [] entries distinct

/-- Failures of an item that only say that there is none. -/
def Fault.isMissingItem (fault : Fault) : Bool :=
  match fault.kind? with
  | some .missingKey | some .wrongKind | some .outOfRange => true
  | _ => false

/-- The item of an object under a name, or null when there is none. -/
def itemOrNull : Except Fault Value → Except Fault Value
  | .ok value => .ok value
  | .error fault => if fault.isMissingItem then .ok .null else .error fault

/-- The member of a value: data that lacks it gives null, and an object falls back on its items.
What the host program could do with values of its own kinds beyond that is left out. -/
def Value.member (name : String) : Value → Except Fault Value
  | .dict entries => .ok ((Dict.named? entries name).getD .null)
  | .object _ _ _ _ members items =>
    match members name with
    | .ok value => .ok value
    | .error fault =>
      -- Only an attribute that is missing lets the item be asked for.
      if fault.kind? = some .missingAttribute then itemOrNull (items name) else .error fault
  | _ => .ok .null

end Stencil
