import Stencil.Proofs.Activation

/-! Rendering is the one way to carry out templates whose components are carried out likewise. -/

namespace Stencil

section

variable (environment : Environment)

/-- The text of a template with all levels of components that its frame has left. -/
def Template.wholeText (template : Template) (frame : Frame) (context : Dict) :
    Except Failure String :=
  template.renderIn environment frame.levels frame context

end

section

variable {environment : Environment} {template : Template} {script : Script}

/-- A template comes to the same text as its script. -/
theorem Template.IsOf.wholeText_eq (made : template.IsOf script) (frame : Frame) (context : Dict) :
    template.wholeText environment frame context = script.wholeText environment frame context :=
  -- The levels are those of the frame.
  made.renderIn_eq environment frame.levels frame context

end

end Stencil
