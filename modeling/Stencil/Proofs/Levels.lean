import Stencil.Proofs.Invocation

/-! The levels of components that a frame has left are enough for any render that starts in it. -/

namespace Stencil

namespace Frame

/-- The levels of components that are left below a frame. -/
def levels (frame : Frame) : Nat :=
  (frame.maxDepth - frame.depth).toNat

/-- Another line in a frame leaves as many levels. -/
@[simp] theorem levels_atLine (frame : Frame) (line : Int) :
    (frame.atLine line).levels = frame.levels := rfl

/-- The frame of a component has one level less, if there is any. -/
@[simp] theorem levels_child (frame : Frame) (template : String) (source : Option String) :
    (frame.child template source).levels = frame.levels - 1 := by
  -- A child stands one level deeper.
  simp only [levels, child]
  omega

/-- A root frame has all levels that are allowed. -/
@[simp] theorem levels_root (template file source : Option String) (maxDepth : Int) :
    (root template file source maxDepth).levels = maxDepth.toNat := by
  simp [levels, root]

/-- A component is let in if there is a level for it. -/
theorem checkDepth_eq_ok {frame : Frame} {template : String} :
    frame.checkDepth template = .ok () ↔ 0 < frame.levels := by
  -- The check refuses just the frames at the highest depth.
  simp only [checkDepth, levels]
  split
  · simp only [reduceCtorEq, false_iff]
    omega
  · simp only [true_iff]
    omega

/-- A component is refused if there is no level for it, and always with the same report. -/
theorem checkDepth_eq_error {frame : Frame} {template : String} {failure : Failure} :
    frame.checkDepth template = .error failure ↔
      frame.levels = 0 ∧ failure = frame.tooDeep template := by
  -- The check refuses just the frames at the highest depth, with this one report.
  simp only [checkDepth, levels]
  split
  · simp only [Except.error.injEq, eq_comm, iff_and_self]
    omega
  · simp only [reduceCtorEq, false_iff, not_and]
    omega

end Frame

section

variable (environment : Environment)

/-- The text of a script with all levels of components that its frame has left. -/
def Script.wholeText (script : Script) (frame : Frame) (context : Dict) : Except Failure String :=
  script.textIn environment frame.levels frame context

/-- A component that is let in is rendered in a frame of its own, one level down. -/
def Environment.renderComponent (frame : Frame) (component : Script) (context : Dict) :
    Except Failure String := do
  frame.checkDepth component.componentName
  component.wholeText environment (frame.child component.componentName component.source) context

/-- The surroundings of a script whose components are rendered on all levels that are left. -/
def Environment.components (strict : Bool) : Surroundings Script :=
  environment.around strict environment.renderComponent

/-- Environments with the same scripts and the same extension give a script one text. -/
theorem textIn_congr {environment other : Environment}
    (scripts : other.script = environment.script)
    (extension : other.extension = environment.extension) (levels : Nat) :
    Script.textIn other levels = Script.textIn environment levels := by
  -- An environment is asked for nothing else while a script is interpreted.
  have around (strict : Bool) (render : Frame → Script → Dict → Except Failure String) :
      other.around strict render = environment.around strict render := by
    simp only [Environment.around, scripts, extension]
  induction levels with
  | zero =>
    funext script frame context
    simp only [Script.textIn, around]
  | succ levels ih =>
    funext script frame context
    simp only [Script.textIn, around, ih]

/-- As many levels as a frame has left, or more, give the text of all of them. -/
theorem textIn_enough {levels : Nat} (script : Script) {frame : Frame}
    (enough : frame.levels ≤ levels) (context : Dict) :
    script.textIn environment levels frame context =
      script.wholeText environment frame context := by
  unfold Script.wholeText
  -- The induction is on the levels given; those that are left go down with them.
  induction levels generalizing script frame context with
  | zero => rw [Nat.le_zero.1 enough]
  | succ levels ih =>
    cases left : frame.levels with
    | zero =>
      -- Without a level left, the check refuses what the last level refuses anyway.
      rw [Script.textIn, Script.textIn]
      refine text_congr rfl rfl rfl fun line path component inner _ => ?_
      have refused : (frame.atLine line).checkDepth component.componentName =
          .error ((frame.atLine line).tooDeep component.componentName) :=
        Frame.checkDepth_eq_error.2 ⟨left, rfl⟩
      simp only [Environment.around, refused, error_bind]
    | succ more =>
      rw [Script.textIn, Script.textIn]
      refine text_congr rfl rfl rfl fun line path component inner _ => ?_
      -- One level down there is one level less, of those that are left and of those given.
      have below : ((frame.atLine line).child component.componentName component.source).levels =
          more := by
        simp [left]
      have same := ih component (by rw [below]; omega) inner
      rw [below] at same
      simp only [Environment.around, same]

/-- A script is rendered by its components being rendered one level down each. -/
theorem wholeText_eq (script : Script) (frame : Frame) (context : Dict) :
    script.wholeText environment frame context =
      script.text (environment.components script.strict) frame context := by
  -- One level more than is left changes nothing, and takes the place of the first step.
  rw [← textIn_enough environment script (Nat.le_succ frame.levels), Script.textIn]
  refine text_congr rfl rfl rfl fun line path component inner _ => ?_
  simp only [Environment.components, Environment.around, Environment.renderComponent]
  congr 1
  funext _
  exact textIn_enough environment component (by simp) inner

end

end Stencil
