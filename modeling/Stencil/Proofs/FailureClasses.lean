import Stencil.Proofs.Blur

/-! Classes and places of failures, which are the same for failures that look alike. -/

namespace Stencil

/-- The classes by which failures are told apart where they are caught. -/
inductive Family
  | general
  | notFound
  | unresolvable
  -- A malformed source is told apart by who refused it.
  | malformed
  | unlexed
  | unparsed
  | invalidData
  | runtime
  | undefined
  | mishap (kindName : String)
  deriving DecidableEq

/-- The class of a report. -/
def Diagnostic.family : Diagnostic → Family
  | .general _ => .general
  | .notFound _ => .notFound
  | .unresolvable _ => .unresolvable
  | .malformed fault => match fault.stage with
    | .general => .malformed
    | .lexer => .unlexed
    | .parser _ => .unparsed
  | .invalidData _ => .invalidData
  | .runtime _ => .runtime
  | .undefined _ => .undefined

/-- The template and the line that a report names. -/
def Diagnostic.place : Diagnostic → Option String × Option Int
  | .general _ | .notFound _ => (none, none)
  | .unresolvable fault => (fault.template, fault.line)
  | .malformed fault => (fault.name, fault.line)
  | .invalidData fault => (fault.template, fault.line)
  | .runtime fault => (fault.template, fault.line)
  | .undefined fault => (some fault.template, fault.line)

/-- The class of a failure; a mishap is caught by the name of its kind. -/
def Failure.family : Failure → Family
  | .diagnostic report => report.family
  | .mishap accident => .mishap accident.kindName

/-- The template and the line that a failure names. -/
def Failure.place : Failure → Option String × Option Int
  | .diagnostic report => report.place
  | .mishap _ => (none, none)

/-- Two failures are of one class, and have one code. -/
structure Failure.SameClass (failure other : Failure) : Prop where
  family : failure.family = other.family
  code : failure.code? = other.code?

/-- Two failures of one class name one template and one line, and differ at most in a snippet. -/
structure Failure.SamePlace (failure other : Failure) : Prop extends failure.SameClass other where
  place : failure.place = other.place
  report : failure.reporting Diagnostic.withoutSnippet = other.reporting Diagnostic.withoutSnippet

/-- A failure that is reported without its snippet is of the same class, and names one place. -/
theorem Failure.withoutSnippet_same (failure : Failure) :
    (failure.reporting Diagnostic.withoutSnippet).family = failure.family ∧
      (failure.reporting Diagnostic.withoutSnippet).code? = failure.code? ∧
      (failure.reporting Diagnostic.withoutSnippet).place = failure.place := by
  -- One case per kind of report: none of them keeps its class, its code or its place in the
  -- snippet.
  cases failure with
  | mishap accident => exact ⟨rfl, rfl, rfl⟩
  | diagnostic report => cases report <;> exact ⟨rfl, rfl, rfl⟩

/-- A failure that is reported without its place is of the same class. -/
theorem Failure.withoutPlace_same (failure : Failure) :
    (failure.reporting Diagnostic.withoutPlace).family = failure.family ∧
      (failure.reporting Diagnostic.withoutPlace).code? = failure.code? := by
  -- One case per kind of report: class and code are not part of the place.
  cases failure with
  | mishap accident => exact ⟨rfl, rfl⟩
  | diagnostic report => cases report <;> exact ⟨rfl, rfl⟩

/-- Failures that look the same without snippets are of one class, and name one place. -/
theorem Failure.samePlace_of {failure other : Failure} (same : Blur.snippets.Same failure other) :
    failure.SamePlace other := by
  -- Without their snippets the two reports are equal, and dropping the snippet changes nothing
  -- else.
  have report : failure.reporting Diagnostic.withoutSnippet =
      other.reporting Diagnostic.withoutSnippet := same
  obtain ⟨family, code, place⟩ := failure.withoutSnippet_same
  obtain ⟨again, codeAgain, placeAgain⟩ := other.withoutSnippet_same
  rw [report] at family code place
  exact ⟨⟨family.symm.trans again, code.symm.trans codeAgain⟩, place.symm.trans placeAgain, report⟩

/-- Failures that look the same without places are of one class. -/
theorem Failure.sameClass_of {failure other : Failure} (same : Blur.places.Same failure other) :
    failure.SameClass other := by
  -- Without their places the two reports are equal, and dropping the place changes neither class
  -- nor code.
  have report : failure.reporting Diagnostic.withoutPlace =
      other.reporting Diagnostic.withoutPlace := same
  obtain ⟨family, code⟩ := failure.withoutPlace_same
  obtain ⟨again, codeAgain⟩ := other.withoutPlace_same
  rw [report] at family code
  exact ⟨family.symm.trans again, code.symm.trans codeAgain⟩

end Stencil
