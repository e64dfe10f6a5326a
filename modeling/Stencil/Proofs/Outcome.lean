/-! Outcomes: steps that succeed or fail, one after another. -/

namespace Stencil

section

variable {Fault Meaning Other Third : Type}

/-- A step that succeeds hands its result on. -/
@[simp] theorem ok_bind (value : Meaning) (next : Meaning → Except Fault Other) :
    (Except.ok value >>= next) = next value := rfl

/-- A step that fails ends all that would follow. -/
@[simp] theorem error_bind (fault : Fault) (next : Meaning → Except Fault Other) :
    (Except.error fault >>= next) = .error fault := rfl

/-- A result is changed where it is known. -/
@[simp] theorem map_ok (change : Meaning → Other) (value : Meaning) :
    Except.map change (.ok value : Except Fault Meaning) = .ok (change value) := rfl

/-- A failure has no result to change. -/
@[simp] theorem map_error (change : Meaning → Other) (fault : Fault) :
    Except.map change (.error fault : Except Fault Meaning) = .error fault := rfl

/-- A result has no failure to change. -/
@[simp] theorem mapError_ok (change : Fault → Other) (value : Meaning) :
    Except.mapError change (.ok value : Except Fault Meaning) = .ok value := rfl

/-- A failure is changed where it is known. -/
@[simp] theorem mapError_error (change : Fault → Other) (fault : Fault) :
    Except.mapError change (.error fault : Except Fault Meaning) = .error (change fault) := rfl

/-- What has succeeded has a result. -/
theorem eq_ok_of_isOk {outcome : Except Fault Meaning} (accepted : outcome.isOk = true) :
    ∃ value, outcome = .ok value := by
  -- An outcome is a fault or a value.
  cases outcome with
  | error fault => cases accepted
  | ok value => exact ⟨value, rfl⟩

/-- Two steps succeed if the first does and the second does with its result. -/
theorem bind_eq_ok {first : Except Fault Meaning} {next : Meaning → Except Fault Other}
    {result : Other} :
    (first >>= next) = .ok result ↔ ∃ value, first = .ok value ∧ next value = .ok result := by
  -- Only a first step that succeeds lets the second one run.
  cases first with
  | error fault => simp
  | ok value => simp

/-- Two steps fail if the first does, or if the second does with the result of the first. -/
theorem bind_eq_error {first : Except Fault Meaning} {next : Meaning → Except Fault Other}
    {fault : Fault} :
    (first >>= next) = .error fault ↔
      first = .error fault ∨ ∃ value, first = .ok value ∧ next value = .error fault := by
  -- The fault of the first step is not changed by the second one, which is never run.
  cases first with
  | error other => simp
  | ok value => simp

/-- A changed result is there if the result is. -/
theorem map_eq_ok {change : Meaning → Other} {outcome : Except Fault Meaning} {result : Other} :
    Except.map change outcome = .ok result ↔
      ∃ value, outcome = .ok value ∧ change value = result := by
  -- A change of the value leaves a fault a fault.
  cases outcome with
  | error fault => simp
  | ok value => simp

/-- A change of results keeps every fault. -/
theorem map_eq_error {change : Meaning → Other} {outcome : Except Fault Meaning} {fault : Fault} :
    Except.map change outcome = .error fault ↔ outcome = .error fault := by
  -- A fault passes through a change of the value.
  cases outcome with
  | error other => simp
  | ok value => simp

/-- A change of failures keeps every result. -/
theorem mapError_eq_ok {change : Fault → Third} {outcome : Except Fault Meaning} {value : Meaning} :
    Except.mapError change outcome = .ok value ↔ outcome = .ok value := by
  -- A value passes through a change of the fault.
  cases outcome with
  | error fault => simp
  | ok other => simp

/-- A changed failure is there if the failure is. -/
theorem mapError_eq_error {change : Fault → Third} {outcome : Except Fault Meaning}
    {other : Third} :
    Except.mapError change outcome = .error other ↔
      ∃ fault, outcome = .error fault ∧ change fault = other := by
  -- A change of the fault leaves a value a value.
  cases outcome with
  | error fault => simp
  | ok value => simp

/-- A result may be changed before it is handed on. -/
theorem map_bind (change : Meaning → Other) (first : Except Fault Meaning)
    (next : Other → Except Fault Third) :
    (Except.map change first >>= next) = first >>= fun value => next (change value) := by
  -- Nothing follows a fault on either side.
  cases first with
  | error fault => rfl
  | ok value => rfl

/-- The result of two steps is changed where the second one gives it. -/
theorem bind_map (change : Other → Third) (first : Except Fault Meaning)
    (next : Meaning → Except Fault Other) :
    Except.map change (first >>= next) = first >>= fun value => Except.map change (next value) := by
  -- The last step is reached only if the first one gives a value.
  cases first with
  | error fault => rfl
  | ok value => rfl

end

/-- Two outcomes are alike if both fail with related faults or succeed with related results. -/
inductive Alike {Fault Meaning Other : Type} (failed : Fault → Fault → Prop)
    (found : Meaning → Other → Prop) : Except Fault Meaning → Except Fault Other → Prop
  | failed {left right : Fault} (related : failed left right) :
    Alike failed found (.error left) (.error right)
  | found {left : Meaning} {right : Other} (related : found left right) :
    Alike failed found (.ok left) (.ok right)

section

variable {Fault Meaning Other Third Fourth : Type} {failed : Fault → Fault → Prop}
  {found : Meaning → Other → Prop} {left : Except Fault Meaning} {right : Except Fault Other}

/-- Steps that are alike, with alike steps behind them, are alike together. -/
theorem Alike.bind {later : Third → Fourth → Prop} (alike : Alike failed found left right)
    {next : Meaning → Except Fault Third} {follow : Other → Except Fault Fourth}
    (then' : ∀ value other, found value other → Alike failed later (next value) (follow other)) :
    Alike failed later (left >>= next) (right >>= follow) := by
  -- A fault on one side is a fault on the other, and otherwise the steps that follow start from
  -- related values.
  cases alike with
  | failed related => exact .failed related
  | found related => exact then' _ _ related

/-- An outcome is alike to itself when its failures and its results are. -/
theorem Alike.refl {same : Meaning → Meaning → Prop} (failures : ∀ fault, failed fault fault)
    (results : ∀ value, same value value) (outcome : Except Fault Meaning) :
    Alike failed same outcome outcome := by
  -- One case for a fault and one for a value, each related to itself.
  cases outcome with
  | error fault => exact .failed (failures fault)
  | ok value => exact .found (results value)

/-- Outcomes stay alike when their faults are changed in ways that keep them related. -/
theorem Alike.mapError {changed : Fault → Fault → Prop} {change alter : Fault → Fault}
    (alike : Alike failed found left right)
    (keep : ∀ fault other, failed fault other → changed (change fault) (alter other)) :
    Alike changed found (left.mapError change) (right.mapError alter) := by
  -- Values are untouched by a change of the faults.
  cases alike with
  | failed related => exact .failed (keep _ _ related)
  | found related => exact .found related

/-- Outcomes that are alike are so by any weaker relation of their faults. -/
theorem Alike.imp {weaker : Fault → Fault → Prop} (alike : Alike failed found left right)
    (weaken : ∀ fault other, failed fault other → weaker fault other) :
    Alike weaker found left right := by
  -- Only the relation between faults is weakened.
  cases alike with
  | failed related => exact .failed (weaken _ _ related)
  | found related => exact .found related

/-- Outcomes stay alike when their results are changed in ways that keep them related. -/
theorem Alike.map {later : Third → Fourth → Prop} (alike : Alike failed found left right)
    {change : Meaning → Third} {alter : Other → Fourth}
    (keep : ∀ value other, found value other → later (change value) (alter other)) :
    Alike failed later (left.map change) (right.map alter) := by
  -- Faults are untouched by a change of the values.
  cases alike with
  | failed related => exact .failed related
  | found related => exact .found (keep _ _ related)

/-- An outcome that succeeds in the way of its relation has its result related. -/
theorem Alike.result (alike : Alike failed found left right) {value : Meaning}
    (same : left = .ok value) : ∃ other, right = .ok other ∧ found value other := by
  -- A value on the left excludes the case of two faults.
  subst same
  cases alike with
  | found related => exact ⟨_, rfl, related⟩

/-- An outcome that fails in the way of its relation has its failure related. -/
theorem Alike.failure (alike : Alike failed found left right) {fault : Fault}
    (stopped : left = .error fault) : ∃ other, right = .error other ∧ failed fault other := by
  -- A fault on the left excludes the case of two values.
  subst stopped
  cases alike with
  | failed related => exact ⟨_, rfl, related⟩

/-- Two outcomes that succeed alike have one result. -/
theorem Alike.ok_eq {left right : Except Fault Meaning} (alike : Alike failed Eq left right)
    {value : Meaning} (same : left = .ok value) : right = .ok value := by
  -- Related by equality, the value found on the right is the one on the left.
  obtain ⟨other, found, equal⟩ := alike.result same
  rw [found, equal]

/-- Outcomes that fail alike are alike by whatever relates their results. -/
theorem Alike.results {later : Meaning → Other → Prop} (alike : Alike failed found left right)
    (related : ∀ value other, left = .ok value → right = .ok other → later value other) :
    Alike failed later left right := by
  -- The new relation is asked for only where both sides give a value.
  cases alike with
  | failed same => exact .failed same
  | found _ => exact .found (related _ _ rfl rfl)

/-- Outcomes that are the same but for their results are alike. -/
theorem Alike.of_map {left : Except Fault Meaning} {right : Except Fault Other}
    (same : left.map (fun _ => ()) = right.map fun _ => ()) :
    Alike Eq (fun _ _ => True) left right := by
  -- Without their values the two outcomes are equal, so they have the same fault or both give a
  -- value.
  cases left with
  | error fault =>
    obtain ⟨other, rfl⟩ : ∃ other, right = .error other := ⟨fault, map_eq_error.1 same.symm⟩
    exact .failed (Except.error.inj same)
  | ok value =>
    obtain ⟨other, rfl, _⟩ := map_eq_ok.1 same.symm
    exact .found trivial

/-- Outcomes that are alike in every detail are the same. -/
theorem Alike.eq {left right : Except Fault Meaning} (alike : Alike Eq Eq left right) :
    left = right := by
  -- Equal faults or equal values make equal outcomes.
  cases alike with
  | failed same => rw [same]
  | found same => rw [same]

end

end Stencil
