import Stencil.Proofs.Activation
import Stencil.Proofs.WrittenTrees

/-! A template renders what stands in front of a node, the node, and what stands behind it. -/

namespace Stencil

/-- A script with other nodes in its body. -/
def Script.withBody (script : Script) (nodes : List Node) : Script :=
  { script with tree := .template .start nodes }

/-- The steps of a body are those of its parts one behind the other. -/
theorem bodySteps_append (site : Site) (front back : List Node) :
    site.bodySteps (front ++ back) =
      site.bodySteps front >>= fun first => site.bodySteps back >>= fun others =>
        .ok (first ++ others) := by
  induction front with
  | nil =>
    simp only [List.nil_append, Site.bodySteps, ok_bind]
    -- Nothing is put in front of the steps of the back.
    cases site.bodySteps back <;> rfl
  | cons node front ih =>
    simp only [List.cons_append, Site.bodySteps, ih, bind_assoc, ok_bind, List.append_assoc]

/-- Two checks pass if each of them does. -/
theorem check_append_ok {steps others : Procedure} :
    Procedure.check (steps ++ others) = .ok () ↔
      Procedure.check steps = .ok () ∧ Procedure.check others = .ok () := by
  -- Checking goes through the steps in their order.
  rw [check_append, bind_eq_ok]
  constructor
  · rintro ⟨⟨⟩, first, second⟩
    exact ⟨first, second⟩
  · rintro ⟨first, second⟩
    exact ⟨(), first, second⟩

/-- A check that is passed as an outcome is passed. -/
theorem checked_eq_ok {outcome : Except Mishap Unit} :
    Environment.checked outcome = .ok () ↔ outcome = .ok () := by
  -- Only an accident is turned into a failure.
  cases outcome with
  | ok _ => simp [Environment.checked]
  | error mishap => simp [Environment.checked]

/-- A script is compiled if its body has steps, and if its names and its steps pass their checks. -/
theorem isOf_iff {script : Script} :
    (∃ template, Template.IsOf template script) ↔
      checkNames script.site.name script.site.file = .ok () ∧
      ∃ steps, script.site.bodySteps script.tree.body = .ok steps ∧
        Procedure.check steps = .ok () := by
  -- The opening and the closing of a procedure always pass.
  have opening : Procedure.check Procedure.opening = .ok () := rfl
  have closing : Procedure.check Procedure.closing = .ok () := rfl
  simp only [Template.IsOf, Script.compile, Site.procedure, bind_eq_ok, Except.ok.injEq]
  constructor
  · rintro ⟨template, procedure, ⟨steps, body, rfl⟩, ⟨⟩, names, ⟨⟩, passed, _⟩
    rw [checked_eq_ok] at names passed
    rw [check_append_ok, check_append_ok] at passed
    exact ⟨names, steps, body, passed.1.2⟩
  · rintro ⟨names, steps, body, passed⟩
    refine ⟨_, _, ⟨steps, body, rfl⟩, (), checked_eq_ok.2 names, (), checked_eq_ok.2 ?_, rfl⟩
    exact check_append_ok.2 ⟨check_append_ok.2 ⟨opening, passed⟩, closing⟩

/-- Each part of the body of a template could be the body of a template. -/
theorem Template.IsOf.parts {template : Template} {script : Script} (made : template.IsOf script)
    {front back : List Node} (split : script.tree.body = front ++ back) :
    (∃ part, Template.IsOf part (script.withBody front)) ∧
      ∃ part, Template.IsOf part (script.withBody back) := by
  obtain ⟨names, steps, body, passed⟩ := isOf_iff.1 ⟨template, made⟩
  rw [split, bodySteps_append] at body
  obtain ⟨first, head, behind⟩ := bind_eq_ok.1 body
  obtain ⟨others, tail, same⟩ := bind_eq_ok.1 behind
  cases same
  -- The steps of the whole pass just if the steps of both parts do.
  obtain ⟨firstPassed, othersPassed⟩ := check_append_ok.1 passed
  exact ⟨isOf_iff.2 ⟨names, first, head, firstPassed⟩,
    isOf_iff.2 ⟨names, others, tail, othersPassed⟩⟩

section

variable {Loaded : Type} {around : Surroundings Loaded} {script : Script} {frame : Frame}
  {context : Dict}

/-- A body has the texts of its parts one behind the other. -/
theorem bodyText_append (front back : List Node) :
    script.bodyText around frame context (front ++ back) = (do
      let head ← script.bodyText around frame context front
      let tail ← script.bodyText around frame context back
      .ok (head ++ tail)) := by
  -- Induction on the nodes in front. The texts are joined in their order, which is associative.
  induction front with
  | nil =>
    simp only [List.nil_append, Script.bodyText, ok_bind, String.empty_append]
    cases script.bodyText around frame context back <;> rfl
  | cons node front ih =>
    simp only [List.cons_append, Script.bodyText, ih, bind_assoc, ok_bind, String.append_assoc]

/-- A body has the text in front of a node, then that of the node, and then that behind it. -/
theorem bodyText_between (before after : List Node) (node : Node) :
    script.bodyText around frame context (before ++ node :: after) = (do
      let head ← script.bodyText around frame context before
      let middle ← script.nodeText around frame context node
      let tail ← script.bodyText around frame context after
      .ok (head ++ middle ++ tail)) := by
  -- Cut the body before the node and behind it.
  simp only [bodyText_append, Script.bodyText, bind_assoc, ok_bind, String.append_assoc]

end

namespace Activation

section

variable {environment : Environment} {active : Activation}

/-- A template of a part of the body renders the text of that part. -/
theorem renderIn_part {part : Template} {nodes : List Node}
    (made : part.IsOf (active.script.withBody nodes)) :
    part.renderIn environment active.frame.levels active.frame active.context =
      active.script.bodyText (environment.components active.script.strict) active.frame
        active.context nodes := by
  rw [made.renderIn_eq]
  -- The part is a script of its own, which differs from the whole in its tree only.
  calc (active.script.withBody nodes).textIn environment active.frame.levels active.frame
        active.context
      = (active.script.withBody nodes).bodyText (environment.components active.script.strict)
          active.frame active.context nodes :=
      wholeText_eq environment _ active.frame active.context
    _ = active.script.bodyText (environment.components active.script.strict) active.frame
          active.context nodes :=
      @bodyText_same _ _ _ _ (active.script.withBody nodes) active.script rfl rfl nodes

/-- An activation has the text in front of a node, then that of the node, and then that behind it:
each part is rendered by a template of its own, in the same context as if it stood alone. -/
theorem text_between (made : ∃ whole, Template.IsOf whole active.script) {before after : List Node}
    {node : Node} (split : active.script.tree.body = before ++ node :: after) :
    ∃ front back, Template.IsOf front (active.script.withBody before) ∧
      Template.IsOf back (active.script.withBody after) ∧
      active.text environment = (do
        let head ← front.renderIn environment active.frame.levels active.frame active.context
        let middle ← (active.step environment node >>=
          active.finish environment node.line).mapError
            ((active.frame.atLine node.line).locate active.script.source)
        let tail ← back.renderIn environment active.frame.levels active.frame active.context
        .ok (head ++ middle ++ tail)) := by
  -- Each part of a body compiles if the whole does, and it renders what it adds to the text.
  obtain ⟨whole, compiled⟩ := made
  have behind : active.script.tree.body = (before ++ [node]) ++ after := by simp [split]
  obtain ⟨⟨front, frontMade⟩, _⟩ := compiled.parts split
  obtain ⟨_, back, backMade⟩ := compiled.parts behind
  refine ⟨front, back, frontMade, backMade, ?_⟩
  rw [text_eq, split, bodyText_between, renderIn_part frontMade, renderIn_part backMade,
    nodeText_step]

end

end Activation

end Stencil
