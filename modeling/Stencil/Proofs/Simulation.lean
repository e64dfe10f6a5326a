import Stencil.Proofs.Activation
import Stencil.Proofs.MovedTrees
import Stencil.Proofs.Variables

/-! Two environments that render alike: what is so of each step of a render is so of the whole. -/

namespace Stencil

/-- Scripts of two environments and the frames of their renders correspond, so that what they ask
for is answered in ways that a comparison of outcomes cannot tell apart. -/
structure Correspondence (environment other : Environment) where
  compare : Comparison
  Near : Frame → Frame → Prop
  Kin : Script → Script → Prop
  levels {first second : Frame} (near : Near first second) : first.levels = second.levels
  atLine {first second : Frame} (near : Near first second) (line : Int) :
    Near (first.atLine line) (second.atLine line)
  child {first second : Frame} (near : Near first second) {component twin : Script}
    (kin : Kin component twin) : Near (first.child component.componentName component.source)
      (second.child twin.componentName twin.source)
  -- What a step asks for is answered in ways that compare.
  lookup {first second : Frame} (near : Near first second) {script twin : Script}
    (kin : Kin script twin) (context : Dict) (word : String) : compare.Holds Eq
      (lookupIn script.strict first context word) (lookupIn twin.strict second context word)
  summon {first second : Frame} (near : Near first second) (strict rival : Bool) (site : Site)
    (name : Node) (variant : Option String) (word : String) : compare.Holds Kin
      ((environment.components strict).summon site first.line name variant word)
      ((other.components rival).summon site second.line name variant word)
  styling {first second : Frame} (near : Near first second) (site : Site) (data : Option Node)
    (word : String) : compare.Holds Eq (site.styling word first.line data)
      (site.styling word second.line data)
  tooDeep {first second : Frame} (near : Near first second) {component twin : Script}
    (kin : Kin component twin) : compare.Holds Eq
      (.error (first.tooDeep component.componentName) : Except Failure String)
      (.error (second.tooDeep twin.componentName) : Except Failure String)
  located {first second : Frame} (near : Near first second) (source rival : Option String)
    {left right : Except Failure String} (holds : compare.Holds Eq left right) : compare.Holds Eq
      (left.mapError (first.locate source)) (right.mapError (second.locate rival))

namespace Correspondence

section

variable {environment other : Environment} (shared : Correspondence environment other)
  {first second : Frame} {script twin : Script}

/-- Scripts that are kin have texts that compare, in near frames with fewer levels left. -/
def Renders (bound : Nat) : Prop :=
  ∀ first second : Frame, shared.Near first second → first.levels < bound →
    ∀ script twin : Script, shared.Kin script twin → ∀ context,
      shared.compare.Holds Eq (script.wholeText environment first context)
        (twin.wholeText other second context)

/-- Two scripts read alike if they do so in any near frames. -/
def ReadsAlike (script twin : Script) : Prop :=
  ∀ first second : Frame, shared.Near first second → ∀ context word,
    shared.compare.Holds Eq (lookupIn script.strict first context word)
      (lookupIn twin.strict second context word)

variable {shared}

/-- Components that are kin are rendered alike in near frames. -/
theorem Renders.component (renders : shared.Renders first.levels)
    (near : shared.Near first second) (kin : shared.Kin script twin) (inner : Dict) :
    shared.compare.Holds Eq (environment.renderComponent first script inner)
      (other.renderComponent second twin inner) := by
  have levels := shared.levels near
  simp only [Environment.renderComponent]
  -- Both frames have a level left, or none.
  by_cases left : 0 < first.levels
  · have again : 0 < second.levels := levels ▸ left
    simp only [Frame.checkDepth_eq_ok.2 left, Frame.checkDepth_eq_ok.2 again, ok_bind]
    refine renders _ _ (shared.child near kin) ?_ script twin kin inner
    rw [Frame.levels_child]
    omega
  · have refused : first.levels = 0 := by omega
    have again : second.levels = 0 := by omega
    simp only [Frame.checkDepth_eq_error.2 ⟨refused, rfl⟩,
      Frame.checkDepth_eq_error.2 ⟨again, rfl⟩, error_bind]
    exact shared.tooDeep near kin

variable (script twin)

/-- A node has the same text in two scripts of one site, once near frames have reached its line. -/
theorem Renders.textAt (renders : shared.Renders first.levels)
    (near : shared.Near first second) (site : script.site = twin.site)
    (reads : shared.ReadsAlike script twin) (context : Dict) (node : Node) :
    shared.compare.Holds Eq
      (script.textAt (environment.components script.strict) first context node)
      (twin.textAt (other.components twin.strict) second context node) := by
  -- An output prints the same words on both sides. A component invokes related scripts with the
  -- same context, and renders them one level deeper.
  cases node with
  | output position expression =>
    have printed := shared.compare.printed expression fun word _ =>
      reads first second near context word
    exact shared.located near script.source twin.source printed
  | component position name variant data only =>
    simp only [Script.textAt, ← site, Surroundings.component_invocation]
    refine shared.located near script.source twin.source ?_
    have invoked := @Comparison.invocation shared.compare _ _
      (environment.components script.strict) (other.components twin.strict) shared.Kin
      script.site first second context context name variant data only
      (fun word _ => reads first second near context word)
      (shared.summon near script.strict twin.strict script.site name variant)
      (shared.styling near script.site data) (.inr rfl)
    refine shared.compare.bind invoked fun loaded again related => ?_
    obtain ⟨kin, same⟩ := related
    rw [same]
    exact renders.component near kin again.2
  | _ => exact shared.compare.found rfl

/-- Nodes that differ in their places alone have the same texts, if the frames are near on their
lines. -/
theorem Renders.bodyText_alike (renders : shared.Renders first.levels)
    (site : script.site = twin.site) (reads : shared.ReadsAlike script twin) (context : Dict)
    {nodes rivals : List Node}
    (alike : List.Forall₂ (fun node rival =>
      node.unplaced = rival.unplaced ∧
        shared.Near (first.atLine node.line) (second.atLine rival.line)) nodes rivals) :
    shared.compare.Holds Eq
      (script.bodyText (environment.components script.strict) first context nodes)
      (twin.bodyText (other.components twin.strict) second context rivals) := by
  induction alike with
  | nil => exact shared.compare.found rfl
  | @cons node rival _ _ pair _ ih =>
    obtain ⟨same, near⟩ := pair
    have here : shared.Renders (first.atLine node.line).levels := renders
    have text := here.textAt script twin near site reads context node
    -- The second node has the text that the first one would have in its place.
    rw [← @textAt_moved _ (other.components twin.strict) twin _ _ (fun _ => .start) node,
      Node.moved_start, same, ← Node.moved_start, textAt_moved] at text
    simp only [Script.bodyText, nodeText_textAt]
    refine shared.compare.bind text fun words _ same => ?_
    subst same
    refine shared.compare.bind ih fun rest _ same => ?_
    subst same
    exact shared.compare.found rfl

/-- Nodes have the same texts at other places, if the frames are near on their lines. -/
theorem Renders.bodyText_moved (renders : shared.Renders first.levels)
    (site : script.site = twin.site) (reads : shared.ReadsAlike script twin) (context : Dict)
    (move : Position → Position) {nodes : List Node}
    (near : ∀ node ∈ nodes,
      shared.Near (first.atLine node.line) (second.atLine (move node.position).line)) :
    shared.compare.Holds Eq
      (script.bodyText (environment.components script.strict) first context nodes)
      (twin.bodyText (other.components twin.strict) second context
        (nodes.map (Node.moved move))) := by
  -- Moving a node keeps what it is, so the two bodies correspond node by node.
  refine renders.bodyText_alike script twin site reads context ?_
  rw [List.forall₂_map_right_iff, List.forall₂_same]
  intro node member
  refine ⟨(node.moved_unplaced move).symm, ?_⟩
  simpa only [Node.line, Node.moved_position] using near node member

/-- Nodes have the same texts in near frames, whichever source they stand in. -/
theorem Renders.bodyText (renders : shared.Renders first.levels)
    (near : shared.Near first second) (site : script.site = twin.site)
    (reads : shared.ReadsAlike script twin) (context : Dict) (nodes : List Node) :
    shared.compare.Holds Eq
      (script.bodyText (environment.components script.strict) first context nodes)
      (twin.bodyText (other.components twin.strict) second context nodes) := by
  -- The general statement, with nodes that stay where they are.
  have lines (node : Node) (_ : node ∈ nodes) :
      shared.Near (first.atLine node.line) (second.atLine (node.position.line)) :=
    shared.atLine near node.line
  have moved := renders.bodyText_moved script twin site reads context id lines
  rwa [← Node.allMoved_eq, Node.allMoved_id] at moved

end

/-- Scripts that are kin have texts that compare on any number of levels, if they have them wherever
the components below them do. -/
theorem renders_of {environment other : Environment} (shared : Correspondence environment other)
    (step : ∀ {first second : Frame} {script twin : Script}, shared.Near first second →
      shared.Kin script twin → shared.Renders first.levels → ∀ context,
      shared.compare.Holds Eq (script.text (environment.components script.strict) first context)
        (twin.text (other.components twin.strict) second context)) (bound : Nat) :
    shared.Renders bound := by
  -- The induction is on the levels that are left, of which a component has one less.
  induction bound with
  | zero => exact fun _ _ _ impossible => absurd impossible (Nat.not_lt_zero _)
  | succ bound ih =>
    intro first second near below script twin kin context
    have fewer : shared.Renders first.levels := fun _ _ near left => ih _ _ near (by omega)
    rw [wholeText_eq, wholeText_eq]
    exact step near kin fewer context

end Correspondence

/-- Scripts correspond as they are rendered in two environments, and have the same nodes. -/
structure Simulation (environment other : Environment) extends
    Correspondence environment other where
  -- A script might as well have the site and the tree of the one that it corresponds to.
  text {script twin : Script} (kin : Kin script twin) (around : Surroundings Script)
    (frame : Frame) (context : Dict) : twin.text around frame context =
      ({ twin with site := script.site, tree := script.tree } : Script).text around frame context

namespace Simulation

section

variable {environment other : Environment} {first second : Frame} {script twin : Script}

/-- Scripts that are kin have texts that compare, however many levels there are. -/
theorem renders (simulation : Simulation environment other) (bound : Nat) :
    simulation.Renders bound := by
  -- The text of a script is that of its body, which renders alike wherever the components below it
  -- do.
  refine simulation.renders_of (fun {_ _ script twin} near kin fewer context => ?_) bound
  have reads : simulation.ReadsAlike script twin := fun _ _ near => simulation.lookup near kin
  rw [simulation.text kin]
  exact fewer.bodyText script { twin with site := script.site, tree := script.tree } near rfl
    reads context script.tree.body

/-- Scripts that are kin have texts that compare in near frames. -/
theorem wholeText (simulation : Simulation environment other)
    (near : simulation.Near first second) (kin : simulation.Kin script twin) (context : Dict) :
    simulation.compare.Holds Eq (script.wholeText environment first context)
      (twin.wholeText other second context) :=
  -- The levels of the frame are one of the bounds.
  simulation.renders _ first second near (Nat.lt_succ_self _) script twin kin context

end

end Simulation

end Stencil
