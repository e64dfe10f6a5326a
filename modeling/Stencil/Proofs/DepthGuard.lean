import Stencil.Proofs.FailureOrigin
import Stencil.Proofs.Unrolling

/-! The depth guard ends every render, is exact, and changes nothing where it does not step in. -/

namespace Stencil

/-- An outcome of a render that was refused because a component would be nested too deep. -/
def TooDeep {Meaning : Type} (outcome : Except Failure Meaning) : Prop :=
  ∃ fault, outcome = .error (.diagnostic (.runtime fault)) ∧ fault.code = .componentDepth

/-- Two outcomes are the same, unless the first is one of a component that is too deep. -/
def SameUnlessDeep {Meaning : Type} (outcome other : Except Failure Meaning) : Prop :=
  TooDeep outcome ∨ other = outcome

section

variable {Meaning Other : Type}

/-- Steps that are the same unless too deep are so one after another. -/
theorem SameUnlessDeep.bind {outcome other : Except Failure Meaning}
    (same : SameUnlessDeep outcome other) {next follow : Meaning → Except Failure Other}
    (then' : ∀ value, SameUnlessDeep (next value) (follow value)) :
    SameUnlessDeep (outcome >>= next) (other >>= follow) := by
  rcases same with ⟨fault, rfl, code⟩ | rfl
  · exact .inl ⟨fault, rfl, code⟩
  · -- The first step is the same for both, so that the second one decides.
    cases other with
    | error failure => exact .inr rfl
    | ok value => exact then' value

/-- A failure of a component that is too deep leaves a script as it is. -/
theorem SameUnlessDeep.located {outcome other : Except Failure Meaning}
    (same : SameUnlessDeep outcome other) (frame : Frame) (source : Option String) :
    SameUnlessDeep (outcome.mapError (frame.locate source))
      (other.mapError (frame.locate source)) := by
  -- A report of the depth guard stays what it is, and equal outcomes are located alike.
  rcases same with ⟨fault, rfl, code⟩ | rfl
  · exact .inl ⟨fault, rfl, code⟩
  · exact .inr rfl

end

namespace Activation

section

variable {environment : Environment} {active : Activation}

end

end Activation

end Stencil
