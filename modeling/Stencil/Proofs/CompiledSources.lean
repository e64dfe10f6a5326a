import Stencil.Proofs.MovedTrees
import Stencil.Proofs.Parts
import Stencil.Proofs.SourceParts

/-! A source that is read is compiled just if the data of its components say how they are styled. -/

namespace Stencil

/-- A node is fit at any place. -/
theorem Node.moved_isFit (move : Position → Position) (node : Node) :
    (node.moved move).IsFit ↔ node.IsFit := by
  -- Whether data fits is asked of its phrases, and those have no places.
  cases node with
  | component position name variant data only =>
    rw [moved_component]
    simp only [IsFit, ← dataProblem?_eq_none, dataProblem?_moved]
  | _ => rfl

/-- Plain text has no data. -/
theorem dataNodes_fit (place : Position) (text : List Char) :
    ∀ node ∈ dataNodes place text, node.IsFit := by
  -- Text has no data to refuse.
  unfold dataNodes
  split
  · simp
  · simp [Node.IsFit]

/-- A tree that has the nodes of two others is fit if both of them are. -/
theorem Seamed.fit {front back whole : Node} (seamed : Seamed front back whole)
    (fit : ∀ node ∈ front.body, node.IsFit) (behind : ∀ node ∈ back.body, node.IsFit) :
    ∀ node ∈ whole.body, node.IsFit := by
  -- The whole has the nodes of both sides and one of text between them.
  cases seamed with
  | joined split splitBehind joined =>
    rw [split, List.forall_mem_append] at fit
    rw [splitBehind, List.forall_mem_append] at behind
    simp only [joined, List.forall_mem_append, List.forall_mem_map, Node.moved_isFit]
    exact ⟨fit.1, dataNodes_fit _ _, behind.2⟩

section

variable {maker : Environment} {name file : Option String}

/-- A source that is read is made into a template just if it may go by its names, and all of its
nodes are fit. -/
theorem ofSource_isOk {source : String} {tree : Node}
    (read : readTemplate name file source = .ok tree) :
    (∃ template, maker.ofSource source name file = .ok template) ↔
      checkNames name file = .ok () ∧ ∀ node ∈ tree.body, node.IsFit := by
  -- The source is read, so compiling decides.
  have compiled := @isOf_written (maker.scriptOf tree name file (some source))
    (readTemplate_written read)
  simp only [ofSource_eq_ok, read, Except.ok.injEq, exists_eq_left']
  exact compiled

/-- A source that opens nothing is made into a template of its text. -/
theorem ofSource_plain (maker : Environment) {text : String}
    (opensNothing : OpensNothing text.toList) (names : checkNames name file = .ok ()) :
    ∃ template, maker.ofSource text name file = .ok template ∧
      template.IsOf (maker.scriptOf (.template .start (dataNodes .start text.toList)) name file
        (some text)) := by
  -- Text without an opener is read as one node, which fits.
  have read := @readTemplate_plain name file text opensNothing
  obtain ⟨template, made⟩ := (@ofSource_isOk maker _ _ _ _ read).2 ⟨names, dataNodes_fit _ _⟩
  obtain ⟨tree, again, compiled⟩ := ofSource_eq_ok.1 made
  obtain rfl := Except.ok.inj (read.symm.trans again)
  exact ⟨template, made, compiled⟩

/-- Two sources that are made into templates are so one behind the other, with the nodes of both. -/
theorem ofSource_append {first second : String} {front back : Template}
    (made : maker.ofSource first name file = .ok front)
    (madeBehind : maker.ofSource second name file = .ok back)
    (apart : ¬ MeetsOpening first.toList second.toList) :
    ∃ tree other joined whole, Seamed tree other joined ∧
      front.IsOf (maker.scriptOf tree name file (some first)) ∧
      back.IsOf (maker.scriptOf other name file (some second)) ∧
      maker.ofSource (first ++ second) name file = .ok whole ∧
      whole.IsOf (maker.scriptOf joined name file (some (first ++ second))) := by
  obtain ⟨tree, read, compiled⟩ := ofSource_eq_ok.1 made
  obtain ⟨other, readBehind, compiledBehind⟩ := ofSource_eq_ok.1 madeBehind
  obtain ⟨joined, readWhole, seamed⟩ := readTemplate_append read readBehind apart
  -- The whole may go by the same names, and its nodes are as good as those of the parts.
  obtain ⟨names, styled⟩ := (ofSource_isOk read).1 ⟨front, made⟩
  obtain ⟨_, styledBehind⟩ := (ofSource_isOk readBehind).1 ⟨back, madeBehind⟩
  obtain ⟨whole, madeWhole⟩ :=
    (@ofSource_isOk maker _ _ _ _ readWhole).2 ⟨names, seamed.fit styled styledBehind⟩
  obtain ⟨_, again, compiledWhole⟩ := ofSource_eq_ok.1 madeWhole
  obtain rfl := Except.ok.inj (readWhole.symm.trans again)
  exact ⟨tree, other, joined, whole, seamed, compiled, compiledBehind, madeWhole, compiledWhole⟩

end

end Stencil
