import Stencil.Dict
import Stencil.Failure
import Stencil.Frame
import Stencil.Procedure.Compile
import Stencil.Source
import Stencil.Template

/-! Environments: what templates are made and rendered with, and the loaders that find them. -/

namespace Stencil

/-- A template source, with the file that it comes from if there is one. -/
structure LoadedSource where
  text : String
  file : Option String
  deriving DecidableEq

/-- A loader holds its sources, or asks the host program for each of them, which may fail. -/
inductive Loader
  | held (sources : List (String × String))
  | asked (find : String → Except Fault (Option LoadedSource))

/-- The source of a name among those that are held. -/
def heldSource? (sources : List (String × String)) (name : String) : Option LoadedSource :=
  (sources.find? fun source => source.1 = name).map fun source => ⟨source.2, none⟩

/-- The source that a loader has under a name. -/
def Loader.source? (loader : Loader) (name : String) : Except Fault (Option LoadedSource) :=
  match loader with
  | .held sources => .ok (heldSource? sources name)
  | .asked find => find name

/-- The source under a name, or the report that there is none. -/
def Loader.source (loader : Loader) (name : String) : Except Failure LoadedSource := do
  match ← ofFault (loader.source? name) with
  | some source => .ok source
  | none => .error (.diagnostic (.notFound ("Template '" ++ name ++ "' not found")))

/-- The names that a loader knows, in order; one that asks for each name knows none. -/
def Loader.names : Loader → List String
  | .held sources => (sources.map (·.1)).mergeSort fun left right => !(right < left)
  | .asked _ => []

/-- The choices that templates are made and rendered with. -/
structure Environment where
  -- Without a loader every template is missing.
  loader : Option Loader
  extension : String
  provider : Provider
  strict : Bool
  maxDepth : Int
  globals : Dict

namespace Environment

/-- The end of a component's path unless another one is chosen. -/
def defaultExtension : String := ".html"

/-- An environment in which every choice is the usual one. -/
def default : Environment where
  loader := none
  extension := defaultExtension
  provider := .standard
  strict := true
  maxDepth := Frame.defaultDepth
  globals := []

/-- An environment allows at least one level of components. -/
def check (environment : Environment) : Except Failure Environment :=
  if environment.maxDepth < 1 then .error (.mishap (.depthLimit environment.maxDepth))
  else .ok environment

/-- What the procedures of the environment's templates depend on. -/
def site (environment : Environment) (name file : Option String) : Site where
  name := name
  file := file
  extension := environment.extension
  provider := environment.provider

/-- A check as an outcome. -/
def checked : Except Mishap Unit → Except Failure Unit
  | .ok () => .ok ()
  | .error mishap => .error (.mishap mishap)

/-- The procedure of a tree, if it can be carried out under a name. -/
def procedure (environment : Environment) (tree : Node) (name file : Option String) :
    Except Failure Procedure := do
  -- What is wrong with the tree is reported before what is wrong with its name.
  let procedure ← (environment.site name file).procedure tree
  checked (checkNames name file)
  checked procedure.check
  .ok procedure

/-- The template of a tree. -/
def ofTree (environment : Environment) (tree : Node) (name file source : Option String) :
    Except Failure Template := do
  let procedure ← environment.procedure tree name file
  -- A template keeps the strictness of the environment that made it.
  .ok ⟨name, file, source, environment.strict, procedure⟩

/-- The template of a source. -/
def ofSource (environment : Environment) (source : String) (name file : Option String) :
    Except Failure Template := do
  let tree ← readTemplate name file source
  environment.ofTree tree name file (some source)

/-- The source that the loader of an environment has under a name. -/
def load (environment : Environment) (name : String) : Except Failure LoadedSource :=
  match environment.loader with
  | some loader => loader.source name
  | none =>
    .error (.diagnostic (.notFound ("Template '" ++ name ++ "' not found: no loader configured")))

/-- The template under a name. -/
def template (environment : Environment) (name : String) : Except Failure Template := do
  let source ← environment.load name
  -- The source goes by the name that it was asked for.
  environment.ofSource source.text (some name) source.file

/-- How an environment is shown; how its loader is shown is up to the host program. -/
def shown (environment : Environment) (loaderText : Loader → String) : String :=
  "<Environment extension=" ++ quoted environment.extension ++ " loader=" ++
    ((environment.loader.map loaderText).getD nullText) ++ ">"

end Environment

end Stencil
