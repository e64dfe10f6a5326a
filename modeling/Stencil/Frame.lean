import Stencil.Dict
import Stencil.Failure
import Stencil.Text.Characters

/-! Frames: where a render stands, and the trail of those that it has entered. -/

namespace Stencil

/-- The template that is being rendered, the line reached in it, and how it was reached. -/
structure Frame where
  template : Option String
  file : Option String
  source : Option String
  -- Zero until a node is reached.
  line : Int
  depth : Nat
  maxDepth : Int
  -- The components around this one, from the outermost inwards.
  stack : List (String × Int)
  deriving DecidableEq

namespace Frame

/-- The depth of nesting that suffices for any tree that does not contain itself. -/
def defaultDepth : Int := 50

/-- The frame of a template that no other template invokes. -/
def root (template file source : Option String) (maxDepth : Int) : Frame where
  template := template
  file := file
  source := source
  line := 0
  depth := 0
  maxDepth := maxDepth
  stack := []

/-- The frame with another line reached. -/
def atLine (frame : Frame) (line : Int) : Frame :=
  { frame with line := line }

/-- The stack with the frame itself on top, if it is named and a line in it is reached. -/
def stackAbove (frame : Frame) : List (String × Int) :=
  match nonempty? frame.template with
  -- Before the first line there is nothing to point at.
  | some template => if 0 < frame.line then frame.stack ++ [(template, frame.line)] else frame.stack
  | none => frame.stack

/-- The frame of a component that the frame's template invokes. -/
def child (frame : Frame) (template : String) (source : Option String) : Frame :=
  -- All that is not named stays as it is in the caller, the file included.
  { frame with
    template := some template
    source := source
    line := 0
    depth := frame.depth + 1
    stack := frame.stackAbove }

/-- The line of a frame, if one is reached. -/
def line? (frame : Frame) : Option Int :=
  if frame.line = 0 then none else some frame.line

/-- The lines shown on each side of an error. -/
def snippetReach : Int := 2

/-- The snippet of a source around the line that a frame has reached. -/
def snippetOf (frame : Frame) (source : Option String) : Option Snippet :=
  match nonempty? source, frame.line? with
  | some source, some line => some (Snippet.around source line snippetReach none)
  | _, _ => none

/-- The failure of a component that is nested too deep. -/
def tooDeep (frame : Frame) (template : String) : Failure :=
  .diagnostic (.runtime
    { code := .componentDepth
      message := "Maximum component depth exceeded (" ++ writeInteger frame.maxDepth ++
        ") when rendering '" ++ template ++ "'"
      template := frame.template
      line := frame.line?
      suggestion := some "Check for components that render themselves: A → B → A"
      -- The guard answers before the component has a line of its own to show.
      snippet := none
      stack := frame.stack })

/-- A component is refused when its template would be nested deeper than is allowed. -/
def checkDepth (frame : Frame) (template : String) : Except Failure Unit :=
  -- The depth is that of the caller, and the component would be one deeper.
  if frame.maxDepth ≤ frame.depth then .error (frame.tooDeep template) else .ok ()

/-- The words of a failure, or its kind if it says nothing. -/
def words (kind text : String) : String :=
  -- A failure of blanks says as little as an empty one.
  let bare := trimBlank text.toList
  if bare.isEmpty then kind ++ " (no details available)" else String.ofList bare

/-- The report of a failure that says a text, at the line that a frame has reached. -/
def report (frame : Frame) (source : Option String) (kind text : String) : RuntimeFault where
  code := .runtimeError
  message := words kind text
  template := frame.template
  line := frame.line?
  suggestion := none
  snippet := frame.snippetOf source
  stack := frame.stack

/-- A failure as it leaves a template: a mishap is located, and a diagnostic passes. -/
def locate (frame : Frame) (source : Option String) : Failure → Failure
  -- A diagnostic keeps what it says about its place.
  | .diagnostic diagnostic => .diagnostic diagnostic
  | .mishap mishap =>
    match mishap.message with
    | .ok text => .diagnostic (.runtime (frame.report source mishap.kindName text))
    -- A mishap that cannot be told gives way to what goes wrong in the telling.
    | .error other => other.failure

end Frame

/-- The texts among which a close name is searched, or the first kind of value that is no text. -/
def nameTexts : List Value → Except String (List String)
  | [] => .ok []
  | .text name :: values => (nameTexts values).map (name :: ·)
  | value :: _ => .error value.kindName

/-- The failure of a variable that is not defined; the search for a close name needs texts. -/
def undefinedVariable (name : String) (template : Option String) (line : Option Int)
    (available : List Value) (snippet : Option Snippet) : Failure :=
  match nameTexts available with
  -- The search for a close name fails on a name that is no text.
  | .error kind => .mishap (.unmeasured kind)
  | .ok names => .diagnostic (.undefined
    { name := name
      template := nameOrUnnamed template
      line := line
      closest := closest? name names
      snippet := snippet })

/-- The failure of a variable that is not among entries, as it is read in a frame. -/
def undefinedIn (frame : Option Frame) (entries : Dict) (name : String) : Failure :=
  undefinedVariable name (frame.bind (·.template)) (frame.map (·.line)) (entries.map (·.1))
    (frame.bind fun frame => frame.snippetOf frame.source)

/-- The value of a variable that has to be defined. -/
def lookupStrict (frame : Option Frame) (entries : Dict) (name : String) : Except Failure Value :=
  match Dict.named? entries name with
  | some value => .ok value
  | none => .error (undefinedIn frame entries name)

/-- The value of a variable, or null if it is not defined. -/
def lookupLenient (entries : Dict) (name : String) : Value :=
  (Dict.named? entries name).getD .null

/-- The value of a variable as it is read in a frame. -/
def lookupIn (strict : Bool) (frame : Frame) (entries : Dict) (name : String) :
    Except Failure Value :=
  if strict then lookupStrict (some frame) entries name else .ok (lookupLenient entries name)

/-- Frames with the current one first. -/
abbrev Trail := List Frame

/-- The current frame, which only a render has. -/
def Trail.current : Trail → Except Failure Frame
  | [] => .error (.mishap .outsideRender)
  | frame :: _ => .ok frame

/-- The trail with a component of the current frame entered. -/
def Trail.enter (trail : Trail) (template : String) (source : Option String) :
    Except Failure Trail := do
  let frame ← Trail.current trail
  .ok (frame.child template source :: trail)

/-- The trail with another line reached in the current frame. -/
def Trail.atLine (trail : Trail) (line : Int) : Except Failure Trail := do
  let frame ← Trail.current trail
  .ok (frame.atLine line :: trail.drop 1)

/-- A component is refused when the current frame is as deep as is allowed. -/
def Trail.checkDepth (trail : Trail) (template : String) : Except Failure Unit := do
  let frame ← Trail.current trail
  frame.checkDepth template

end Stencil
