import Stencil.Component.Styling
import Stencil.Node
import Stencil.Text.Lowercase

/-! Where the template of a component is found, and the context that it is rendered in. -/

namespace Stencil

/-- The part of a path that tells a variant; an empty variant is none. -/
def variantSuffix : Option String → String
  | none => ""
  | some variant => if variant.isEmpty then "" else "-" ++ lowercase variant

/-- The path of a component: a folder of its name, and a file of its lower-case name and variant. -/
def componentPath (name : String) (variant : Option String) (extension : String) : String :=
  name ++ "/" ++ lowercase name ++ variantSuffix variant ++ extension

/-- The template of a component: known when the tree is read, or only when it is rendered. -/
inductive TemplateChoice
  | known (name path : String)
  | deferred (name : Node) (variant : Option String)

/-- Only a constant text names its template at once. -/
def chooseTemplate (name : Node) (variant : Option String) (extension : String) : TemplateChoice :=
  match name with
  | .constant _ (.text text) => .known text (componentPath text variant extension)
  | name => .deferred name variant

/-- The name, the classes and the modifiers of a component, one space apart. -/
def className (name : String) (styling : Styling) : String :=
  " ".intercalate (name :: styling.classes ++ styling.modifiers)

/-- A list of texts as a value. -/
def textList (texts : List String) : Value :=
  .list (texts.map .text)

/-- The fields that are computed for a component. -/
def componentFields (name : String) (styling : Styling) : List (String × Value) :=
  [("name", .text name), ("className", .text (className name styling)),
   ("classes", textList styling.classes), ("modifiers", textList styling.modifiers)]

/-- Named values as the entries of a dictionary. -/
def namedEntries (fields : List (String × Value)) : Dict :=
  fields.map fun field => (.text field.1, field.2)

/-- The computed fields over the context that a component is invoked with. -/
def componentContext (name : String) (styling : Styling) (base : Dict) : Dict :=
  Dict.merge base (namedEntries (componentFields name styling))

end Stencil
