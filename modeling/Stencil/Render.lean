import Stencil.Environment
import Stencil.Procedure.Run

/-! Templates are rendered, and the components that they invoke in turn. -/

namespace Stencil

/-- What the procedures of an environment's templates ask for, given how components are rendered. -/
def Environment.services (environment : Environment) (strict : Bool)
    (render : Frame → Template → Dict → Except Failure String) : Services where
  lookup := lookupIn strict
  load := environment.template
  extension := environment.extension
  render := render

/-- The text of a template in a frame, with as many levels of components as are left. -/
def Template.renderIn (environment : Environment) :
    Nat → Template → Frame → Dict → Except Failure String
  | 0, template, frame, context =>
    -- On the last level every component is too deep.
    template.run
      (environment.services template.strict fun frame component _ =>
        .error (frame.tooDeep component.componentName))
      frame context
  | levels + 1, template, frame, context =>
    template.run
      (environment.services template.strict fun frame component context => do
        frame.checkDepth component.componentName
        Template.renderIn environment levels component
          (frame.child component.componentName component.source) context)
      frame context

/-- Named arguments are texts, and none of them stands for the template itself. -/
def checkKeywords : Dict → Except Mishap Unit
  | [] => .ok ()
  -- A name that is no text is reported even if it comes later.
  | (.text "self", _) :: entries => do
    checkKeywords entries
    .error .keywordTaken
  | (.text _, _) :: entries => checkKeywords entries
  | _ :: _ => .error .keywordKind

/-- The context that a render starts with: named arguments over the argument over the globals. -/
def rootContext (globals : Dict) (arguments : List Value) (keywords : Dict) :
    Except Mishap Dict :=
  match arguments with
  -- Named arguments override the context, and the context overrides the globals.
  | [] => .ok (Dict.merge globals keywords)
  | [.dict entries] => .ok (Dict.merge (Dict.merge globals entries) keywords)
  | arguments => .error (.renderArguments arguments.length)

/-- The frame that a render starts in. -/
def Template.rootFrame (template : Template) (environment : Environment) : Frame :=
  Frame.root template.name template.file template.source environment.maxDepth

/-- The text of a template, with the environment that it was made in unless that is gone. -/
def Template.render (template : Template) (environment : Option Environment)
    (arguments : List Value) (keywords : Dict) : Except Failure String := do
  -- Arguments are checked before the template looks for its environment.
  Environment.checked (checkKeywords keywords)
  match environment with
  | none => .error (.mishap (.environmentGone template.name))
  | some environment =>
    match rootContext environment.globals arguments keywords with
    | .error mishap => .error (.mishap mishap)
    | .ok context =>
      template.renderIn environment environment.maxDepth.toNat (template.rootFrame environment)
        context

end Stencil
