import Stencil.Proofs.ComponentNames

/-! Components are invoked: everything about them is evaluated before any of them is rendered. -/

namespace Stencil

section

variable {Loaded : Type} (around : Surroundings Loaded)

/-- What a component is invoked with: its template, and the context that this is rendered in. -/
def Surroundings.invocation (site : Site) (frame : Frame) (context : Dict) (name : Node)
    (variant : Option String) (data : Option Node) (only : Bool) :
    Except Failure (Loaded × Dict) := do
  -- The order is that of the procedure, and it decides which failure is reported.
  let word ← name.printed (around.lookup frame context)
  let template ← around.summon site frame.line name variant word
  let base ← site.mergeBase (around.lookup frame context) context data only
  let styling ← site.styling word frame.line data
  .ok (template, componentContext word (styling.named word) base)

/-- A component is rendered as it is invoked. -/
theorem Surroundings.component_invocation (site : Site) (frame : Frame) (context : Dict)
    (name : Node) (variant : Option String) (data : Option Node) (only : Bool) :
    around.component site frame context name variant data only =
      around.invocation site frame context name variant data only >>= fun invoked =>
        around.render frame invoked.1 invoked.2 := by
  -- The render comes last, so that nothing of the invocation stands behind it.
  simp only [Surroundings.component, Surroundings.invocation, bind_assoc, ok_bind]

end

section

variable {Loaded : Type} {around first second : Surroundings Loaded} {site : Site} {frame : Frame}
  {context : Dict} {name : Node} {variant : Option String} {data : Option Node} {only : Bool}

/-- A path always has something in it. -/
theorem componentPath_ne_empty (word : String) (variant : Option String) (extension : String) :
    componentPath word variant extension ≠ "" := by
  intro empty
  -- The folder is separated from the file by a character at least.
  have count := congrArg String.length empty
  simp only [componentPath, String.length_append] at count
  have slash : "/".length = 1 := rfl
  have nothing : "".length = 0 := rfl
  omega

/-- A summoned template was loaded from a path. -/
theorem summon_loaded {line : Int} {word : String} {loaded : Loaded}
    (summoned : around.summon site line name variant word = .ok loaded) :
    ∃ path, path ≠ "" ∧ around.load path = .ok loaded := by
  refine ⟨around.pathOf site name variant word, componentPath_ne_empty _ _ _, ?_⟩
  -- Only the failures of the load are rewritten, and there is none.
  simp only [Surroundings.summon] at summoned
  cases found : around.load (around.pathOf site name variant word) with
  | error failure => simp [found] at summoned
  | ok other => simpa [found] using summoned

/-- An invocation has its parts: a name, a template, a base and a styling. -/
theorem invocation_eq_ok {invoked : Loaded × Dict} :
    around.invocation site frame context name variant data only = .ok invoked ↔
      ∃ word base styling, name.printed (around.lookup frame context) = .ok word ∧
        around.summon site frame.line name variant word = .ok invoked.1 ∧
        site.mergeBase (around.lookup frame context) context data only = .ok base ∧
        stylingOf data = .ok styling ∧
        invoked.2 = componentContext word (styling.named word) base := by
  -- The steps of an invocation in their order: each has succeeded.
  obtain ⟨template, inner⟩ := invoked
  simp only [Surroundings.invocation, bind_eq_ok, Site.styling_eq_ok, Except.ok.injEq,
    Prod.mk.injEq]
  constructor
  · rintro ⟨word, named, _, summoned, base, merged, styling, styled, rfl, rfl⟩
    exact ⟨word, base, styling, named, summoned, merged, styled, rfl⟩
  · rintro ⟨word, base, styling, named, summoned, merged, styled, same⟩
    exact ⟨word, named, template, summoned, base, merged, styling, styled, rfl, same.symm⟩

/-- The template that a component is invoked with was loaded from a path. -/
theorem invocation_loaded {invoked : Loaded × Dict}
    (found : around.invocation site frame context name variant data only = .ok invoked) :
    ∃ path, path ≠ "" ∧ around.load path = .ok invoked.1 := by
  -- What is invoked was summoned, and what is summoned was loaded.
  obtain ⟨word, base, styling, _, summoned, _⟩ := invocation_eq_ok.1 found
  exact summon_loaded summoned

/-- Surroundings that look up and load alike invoke alike, however they render. -/
theorem invocation_congr (lookup : first.lookup = second.lookup) (load : first.load = second.load)
    (extension : first.extension = second.extension) (site : Site) (frame : Frame)
    (context : Dict) (name : Node) (variant : Option String) (data : Option Node) (only : Bool) :
    first.invocation site frame context name variant data only =
      second.invocation site frame context name variant data only := by
  -- An invocation asks its surroundings for nothing else.
  simp only [Surroundings.invocation, Surroundings.summon, Surroundings.pathOf, lookup, load,
    extension]

/-- A script has one text in surroundings that render alike what it may invoke. -/
theorem text_congr {script : Script} (lookup : first.lookup = second.lookup)
    (load : first.load = second.load) (extension : first.extension = second.extension)
    (render : ∀ line path loaded inner, first.load path = .ok loaded →
      first.render (frame.atLine line) loaded inner =
        second.render (frame.atLine line) loaded inner) :
    script.text first frame context = script.text second frame context := by
  -- Only a component makes use of the render, at its own line and with what was loaded.
  have node (node : Node) :
      script.nodeText first frame context node = script.nodeText second frame context node := by
    cases node with
    | component position name variant data only =>
      simp only [Script.nodeText, Surroundings.component_invocation,
        invocation_congr lookup load extension]
      cases found : second.invocation script.site (frame.atLine position.line) context name variant
        data only with
      | error failure => rfl
      | ok invoked =>
        obtain ⟨path, _, loaded⟩ := invocation_loaded found
        simp only [ok_bind, render position.line path invoked.1 invoked.2 (load ▸ loaded)]
    | output position expression => simp only [Script.nodeText, lookup]
    | _ => rfl
  have body (nodes : List Node) :
      script.bodyText first frame context nodes = script.bodyText second frame context nodes := by
    induction nodes with
    | nil => rfl
    | cons first nodes ih => simp only [Script.bodyText, node, ih]
  exact body script.tree.body

end

end Stencil
