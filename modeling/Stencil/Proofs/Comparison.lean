import Stencil.Failure
import Stencil.Proofs.Outcome

/-! Comparisons of outcomes that go on from one step to the next. -/

namespace Stencil

/-- A way to compare outcomes: results are compared by a relation of their own, a failure with
itself, and steps one after another as they are one by one. -/
structure Comparison where
  Holds {Meaning Other : Type} (found : Meaning → Other → Prop) :
    Except Failure Meaning → Except Failure Other → Prop
  found {Meaning Other : Type} {found : Meaning → Other → Prop} {value : Meaning} {other : Other}
    (related : found value other) : Holds found (.ok value) (.ok other)
  -- Only a failure on both sides has to compare, and only with itself.
  failed {Meaning Other : Type} {found : Meaning → Other → Prop} (failure : Failure) :
    Holds found (.error failure) (.error failure)
  -- What follows is compared from values that were found.
  bind {Meaning Other Third Fourth : Type} {found : Meaning → Other → Prop}
    {later : Third → Fourth → Prop} {left : Except Failure Meaning} {right : Except Failure Other}
    {next : Meaning → Except Failure Third} {follow : Other → Except Failure Fourth}
    (first : Holds found left right)
    (then' : ∀ value other, found value other → Holds later (next value) (follow other)) :
    Holds later (left >>= next) (right >>= follow)

namespace Comparison

/-- Outcomes are compared by whether both fail in related ways, or both succeed. -/
def alike (failed : Failure → Failure → Prop) (same : ∀ failure, failed failure failure) :
    Comparison where
  Holds found := Alike failed found
  found := .found
  failed failure := .failed (same failure)
  bind first then' := first.bind then'

/-- Outcomes are compared by whether the second one succeeds where the first one does. -/
def succeeds : Comparison where
  Holds found left right :=
    ∀ value, left = .ok value → ∃ other, right = .ok other ∧ found value other
  found related := fun _ same => ⟨_, rfl, Except.ok.inj same ▸ related⟩
  -- Nothing is asked where the left side fails.
  failed _ := fun _ impossible => nomatch impossible
  bind first then' := fun _ succeeded => by
    obtain ⟨value, left, next⟩ := bind_eq_ok.1 succeeded
    obtain ⟨other, right, related⟩ := first value left
    obtain ⟨result, follow, later⟩ := then' value other related _ next
    exact ⟨result, bind_eq_ok.2 ⟨other, right, follow⟩, later⟩

/-- Outcomes compare by any weaker relation of their results. -/
theorem imp (compare : Comparison) {Meaning Other : Type} {found weaker : Meaning → Other → Prop}
    {left : Except Failure Meaning} {right : Except Failure Other}
    (holds : compare.Holds found left right)
    (weaken : ∀ value other, found value other → weaker value other) :
    compare.Holds weaker left right := by
  -- A last step that hands the result on changes nothing.
  have step : compare.Holds weaker (left >>= pure) (right >>= pure) :=
    compare.bind holds fun value other related => compare.found (weaken value other related)
  rwa [bind_pure, bind_pure] at step

end Comparison

end Stencil
