import Stencil.Decimal.Layout

/-! Places in a text, and how the place of an error is written. -/

namespace Stencil

/-- A line and a column. -/
structure Position where
  line : Int
  column : Int
  deriving DecidableEq

/-- Where a text starts. -/
def Position.start : Position := ⟨1, 0⟩

/-- The place after a stretch of text; only a line feed starts a new line. -/
def Position.after (position : Position) : List Char → Position
  | [] => position
  | char :: rest =>
    Position.after (if char = '\n' then ⟨position.line + 1, 0⟩
      else ⟨position.line, position.column + 1⟩) rest

/-- The place after two stretches is the place after the second, counted from the first. -/
theorem Position.after_append (position : Position) (first second : List Char) :
    position.after (first ++ second) = (position.after first).after second := by
  -- Induction on the first text.
  induction first generalizing position with
  | nil => rfl
  | cons char rest ih => exact ih _

/-- A name unless it is empty. -/
def nonempty? (name : Option String) : Option String :=
  name.filter fun text => !text.isEmpty

/-- The first of two names, or the second when the first is missing or empty. -/
def firstName (first second : Option String) : Option String :=
  match nonempty? first with
  | some name => some name
  | none => second

/-- What a template without a name is called. -/
def unnamed : String := "<template>"

/-- The name of a template, or what it is called without one. -/
def nameOrUnnamed (name : Option String) : String :=
  (nonempty? name).getD unnamed

/-- A line number behind a colon; the line zero is none. -/
def lineSuffix : Option Int → String
  | none => ""
  | some line => if line = 0 then "" else ":" ++ writeInteger line

/-- A template with a line in it. -/
def location (name : Option String) (line : Option Int) : String :=
  nameOrUnnamed name ++ lineSuffix line

/-- Whether a template is named or a line in it is known. -/
def isLocated (name : Option String) (line : Option Int) : Bool :=
  (nonempty? name).isSome || line.any (· ≠ 0)

/-- The templates that a render passed through, with the line where each was left. -/
def stackText : List (String × Int) → String
  | [] => ""
  | stack => "\n".intercalate ("Template stack:" ::
      stack.map fun (name, line) => "  • " ++ name ++ ":" ++ writeInteger line)

end Stencil
