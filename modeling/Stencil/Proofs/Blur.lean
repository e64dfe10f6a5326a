import Stencil.Proofs.Simulation

/-! Renders that differ in places alone come to one text, or to failures that differ in places. -/

namespace Stencil

/-- A failure with its report changed; a mishap is not yet reported. -/
def Failure.reporting (change : Diagnostic → Diagnostic) : Failure → Failure
  | .diagnostic report => .diagnostic (change report)
  | .mishap accident => .mishap accident

/-- Something is left out of frames and of reports, and no step of a render brings it back. -/
structure Blur where
  frame : Frame → Frame
  report : Diagnostic → Diagnostic
  levels {first second : Frame} (near : frame first = frame second) : first.levels = second.levels
  atLine {first second : Frame} (near : frame first = frame second) (line : Int) :
    frame (first.atLine line) = frame (second.atLine line)
  child {first second : Frame} (near : frame first = frame second) (template : String)
    (source other : Option String) : frame (first.child template source) =
      frame (second.child template other)
  -- What can go wrong in two frames that look alike is reported alike.
  undefined {first second : Frame} (near : frame first = frame second) (entries : Dict)
    (word : String) : (undefinedIn (some first) entries word).reporting report =
      (undefinedIn (some second) entries word).reporting report
  missedKnown {first second : Frame} (near : frame first = frame second) (caller : Option String)
    (failure : Failure) : (failure.missedKnown caller first.line).reporting report =
      (failure.missedKnown caller second.line).reporting report
  missedDeferred {first second : Frame} (near : frame first = frame second) (word path : String)
    (caller : Option String) (failure : Failure) :
    (failure.missedDeferred ⟨word, path, caller, some first.line⟩).reporting report =
      (failure.missedDeferred ⟨word, path, caller, some second.line⟩).reporting report
  unstyled {first second : Frame} (near : frame first = frame second) (word : String)
    (caller : Option String) (fault : DataFault) :
    ((fault.failure word).invoked caller first.line).reporting report =
      ((fault.failure word).invoked caller second.line).reporting report
  tooDeep {first second : Frame} (near : frame first = frame second) (template : String) :
    (first.tooDeep template).reporting report = (second.tooDeep template).reporting report
  located {first second : Frame} (near : frame first = frame second) (source other : Option String)
    (accident : Mishap) : (first.locate source (.mishap accident)).reporting report =
      (second.locate other (.mishap accident)).reporting report

/-- Two environments load scripts that come to the same texts wherever they are rendered. -/
structure Twins (environment other : Environment) where
  Kin : Script → Script → Prop
  extension : environment.extension = other.extension
  loads (path : String) : Alike Eq Kin (environment.script path) (other.script path)
  componentName {script twin : Script} (kin : Kin script twin) :
    script.componentName = twin.componentName
  strict {script twin : Script} (kin : Kin script twin) : script.strict = twin.strict
  -- A script might as well have the site and the tree of its twin.
  text {script twin : Script} (kin : Kin script twin) (around : Surroundings Script)
    (frame : Frame) (context : Dict) : twin.text around frame context =
      ({ twin with site := script.site, tree := script.tree } : Script).text around frame context

/-- An environment is its own twin. -/
def Twins.self (environment : Environment) : Twins environment environment where
  Kin := Eq
  extension := rfl
  loads path := .refl (fun _ => rfl) (fun _ => rfl) (environment.script path)
  componentName kin := by rw [kin]
  strict kin := by rw [kin]
  text kin around frame context := by rw [kin]

/-- Two failures look the same through a blur. -/
def Blur.Same (blur : Blur) (failure other : Failure) : Prop :=
  failure.reporting blur.report = other.reporting blur.report

namespace Blur

section

variable (blur : Blur) {environment other : Environment} {first second : Frame}

/-- A failure looks the same as itself. -/
theorem itself (failure : Failure) : blur.Same failure failure :=
  rfl

/-- Failures that look the same do so as they leave scripts. -/
theorem locate (near : blur.frame first = blur.frame second) (source rival : Option String)
    {failure fault : Failure} (same : blur.Same failure fault) :
    blur.Same (first.locate source failure) (second.locate rival fault) := by
  -- An accident is reported with what the frame says, and a diagnostic is left as it is. What is
  -- blurred is related in both cases.
  cases failure with
  | mishap accident =>
    cases fault with
    | mishap again =>
      cases same
      exact blur.located near source rival accident
    | diagnostic report => cases same
  | diagnostic report =>
    cases fault with
    | mishap accident => cases same
    | diagnostic again => exact same

/-- A variable is read alike in frames that look alike. -/
theorem lookup (near : blur.frame first = blur.frame second) (strict : Bool) (context : Dict)
    (word : String) : Alike blur.Same Eq (lookupIn strict first context word)
      (lookupIn strict second context word) := by
  -- A name that is bound is found on both sides. One that is missing is reported with the frame.
  unfold lookupIn lookupStrict
  split
  · cases Dict.named? context word with
    | some value => exact .found rfl
    | none => exact .failed (blur.undefined near context word)
  · exact .found rfl

/-- A template is summoned alike on lines of frames that look alike. -/
theorem summon (twins : Twins environment other) (near : blur.frame first = blur.frame second)
    (strict rival : Bool) (site : Site) (name : Node) (variant : Option String) (word : String) :
    Alike blur.Same twins.Kin
      ((environment.components strict).summon site first.line name variant word)
      ((other.components rival).summon site second.line name variant word) := by
  have path : (environment.components strict).pathOf site name variant word =
      (other.components rival).pathOf site name variant word := by
    simp only [Surroundings.pathOf, Environment.components, Environment.around, twins.extension]
  simp only [Surroundings.summon, path]
  refine (twins.loads _).mapError fun failure fault same => ?_
  subst same
  -- What is missed is reported in one of two ways, both of which name the line.
  split
  · exact blur.missedKnown near site.caller failure
  · exact blur.missedDeferred near word _ site.caller failure

/-- Data is styled alike on lines of frames that look alike. -/
theorem styling (near : blur.frame first = blur.frame second) (site : Site) (data : Option Node)
    (word : String) : Alike blur.Same Eq (site.styling word first.line data)
      (site.styling word second.line data) := by
  -- The styling does not look at the frame. Only its report does.
  unfold Site.styling
  cases stylingOf data with
  | ok styling => exact .found rfl
  | error fault => exact .failed (blur.unstyled near word site.caller fault)

/-- Twins render alike in frames that look alike. -/
def simulation (twins : Twins environment other) : Simulation environment other where
  -- Failures compare if they are the same once what is blurred is left out.
  compare := .alike blur.Same blur.itself
  Near first second := blur.frame first = blur.frame second
  Kin := twins.Kin
  levels := blur.levels
  atLine := blur.atLine
  child near _ _ kin := by
    rw [twins.componentName kin]
    exact blur.child near _ _ _
  lookup near _ _ kin context word := by
    rw [twins.strict kin]
    exact blur.lookup near _ context word
  summon := blur.summon twins
  styling := blur.styling
  -- The guard tells the depth and the component, which twins share.
  tooDeep near _ _ kin := by
    rw [twins.componentName kin]
    exact .failed (blur.tooDeep near _)
  located near source rival _ _ alike := alike.mapError fun _ _ same =>
    blur.locate near source rival same
  text := twins.text

/-- Scripts that are as strict as each other read alike. -/
theorem reads (twins : Twins environment other) {script twin : Script}
    (strict : script.strict = twin.strict) : (blur.simulation twins).ReadsAlike script twin :=
  -- Twins read in the same mode, and the blur knows the lookups of one mode.
  fun _ _ near context word => strict ▸ blur.lookup near script.strict context word

end

end Blur

/-- A frame without the source that is rendered in it. -/
def Frame.withoutSource (frame : Frame) : Frame :=
  { frame with source := none }

/-- Frames that are the same without their sources differ in these only. -/
theorem Frame.withoutSource_eq {first second : Frame}
    (near : first.withoutSource = second.withoutSource) :
    ∃ source, second = { first with source := source } := by
  -- All other fields are equal.
  simp only [withoutSource, mk.injEq] at near
  exact ⟨second.source, by simp only [near]⟩

/-- A report without the snippet that it shows. -/
def Diagnostic.withoutSnippet : Diagnostic → Diagnostic
  | .runtime fault => .runtime { fault with snippet := none }
  | .undefined fault => .undefined { fault with snippet := none }
  | report => report

/-- A source is seen in snippets only. -/
def Blur.snippets : Blur where
  frame := Frame.withoutSource
  report := Diagnostic.withoutSnippet
  levels near := by
    obtain ⟨_, rfl⟩ := Frame.withoutSource_eq near
    rfl
  atLine near line := by
    obtain ⟨_, rfl⟩ := Frame.withoutSource_eq near
    rfl
  child near template source other := by
    obtain ⟨_, rfl⟩ := Frame.withoutSource_eq near
    rfl
  undefined near entries word := by
    obtain ⟨_, rfl⟩ := Frame.withoutSource_eq near
    -- Among names that are no texts there is no search, and its failure is a mishap.
    simp only [undefinedIn, undefinedVariable]
    split <;> rfl
  missedKnown near caller failure := by
    obtain ⟨_, rfl⟩ := Frame.withoutSource_eq near
    rfl
  missedDeferred near word path caller failure := by
    obtain ⟨_, rfl⟩ := Frame.withoutSource_eq near
    rfl
  unstyled near word caller fault := by
    obtain ⟨_, rfl⟩ := Frame.withoutSource_eq near
    rfl
  tooDeep near template := by
    obtain ⟨_, rfl⟩ := Frame.withoutSource_eq near
    rfl
  located near source other accident := by
    obtain ⟨_, rfl⟩ := Frame.withoutSource_eq near
    -- What cannot be told gives way to a failure that no frame has a part in.
    simp only [Frame.locate]
    split <;> rfl

/-- A frame without what depends on where a template stands in its source. -/
def Frame.withoutPlace (frame : Frame) : Frame :=
  { frame with source := none, line := 0, stack := [] }

/-- Frames that are the same without their places differ in these only. -/
theorem Frame.withoutPlace_eq {first second : Frame}
    (near : first.withoutPlace = second.withoutPlace) :
    ∃ source line stack,
      second = { first with source := source, line := line, stack := stack } := by
  -- All other fields are equal.
  simp only [withoutPlace, mk.injEq] at near
  exact ⟨second.source, second.line, second.stack, by simp only [near]⟩

/-- A report without the lines that it names or shows. -/
def Diagnostic.withoutPlace : Diagnostic → Diagnostic
  -- The line is part of the message where a missing template is named.
  | .notFound _ => .notFound ""
  | .unresolvable fault => .unresolvable { fault with line := none }
  | .invalidData fault => .invalidData { fault with line := none }
  | .runtime fault => .runtime { fault with line := none, snippet := none, stack := [] }
  | .undefined fault => .undefined { fault with line := none, snippet := none }
  | report => report

/-- A line is seen in reports only, where it is named or shown. -/
def Blur.places : Blur where
  frame := Frame.withoutPlace
  report := Diagnostic.withoutPlace
  levels near := by
    obtain ⟨_, _, _, rfl⟩ := Frame.withoutPlace_eq near
    rfl
  atLine near line := by
    obtain ⟨_, _, _, rfl⟩ := Frame.withoutPlace_eq near
    rfl
  child near template source other := by
    obtain ⟨_, _, _, rfl⟩ := Frame.withoutPlace_eq near
    rfl
  undefined near entries word := by
    obtain ⟨_, _, _, rfl⟩ := Frame.withoutPlace_eq near
    simp only [undefinedIn, undefinedVariable]
    split <;> rfl
  missedKnown _ caller failure := by
    -- Only a missing template is reported with the line, in its message.
    unfold Failure.missedKnown
    split <;> rfl
  missedDeferred _ word path caller failure := by
    unfold Failure.missedDeferred
    split <;> rfl
  unstyled _ word caller fault := by
    -- Only a report about data is placed where the component is invoked.
    unfold Failure.invoked
    split <;> rfl
  tooDeep near template := by
    obtain ⟨_, _, _, rfl⟩ := Frame.withoutPlace_eq near
    rfl
  located near source other accident := by
    obtain ⟨_, _, _, rfl⟩ := Frame.withoutPlace_eq near
    simp only [Frame.locate]
    split <;> rfl

end Stencil
