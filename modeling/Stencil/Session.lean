import Stencil.Render

/-! Sessions: an environment that changes while templates made with it are rendered. -/

namespace Stencil

/-- The two ways in which a loader is made from a listing. -/
inductive LoaderKind
  | held
  | asked
  deriving DecidableEq

/-- Names with their sources, if they have any. -/
abbrev Listing := List (String × Option LoadedSource)

/-- The source under a name of a listing. -/
def Listing.source? (listing : Listing) (name : String) : Option LoadedSource :=
  ((listing.find? fun entry => entry.1 = name).map (·.2)).join

/-- The loader of a listing: it holds the sources as they are, or asks for them later. -/
def LoaderKind.loader (kind : LoaderKind) (listing : Listing) : Loader :=
  match kind with
  | .held =>
    .held (listing.filterMap fun (name, source) => source.map fun source => (name, source.text))
  | .asked => .asked fun name => .ok (listing.source? name)

/-- The listing without a name. -/
def Listing.without (listing : Listing) (name : String) : Listing :=
  listing.filter fun entry => entry.1 ≠ name

/-- The listing with a source under a name. -/
def Listing.put (listing : Listing) (name : String) (source : Option LoadedSource) : Listing :=
  (name, source) :: Listing.without listing name

/-- The listing that a loader was made from. -/
structure Origin where
  kind : LoaderKind
  listing : Listing

/-- An environment, the listing behind its loader, and templates under the names of slots. -/
structure Session where
  environment : Option Environment
  origin : Option Origin
  slots : List (String × Template)

namespace Session

/-- The environment of a session, unless it is gone. -/
def alive (session : Session) : Except Failure Environment :=
  match session.environment with
  | some environment => .ok environment
  | none => .error (.mishap (.environmentGone none))

/-- The template in a slot. -/
def slot? (session : Session) (slot : String) : Option Template :=
  (session.slots.find? fun entry => entry.1 = slot).map (·.2)

/-- The session with a template in a slot. -/
def store (session : Session) (slot : String) (template : Template) : Session :=
  { session with slots := (slot, template) :: session.slots.filter fun entry => entry.1 ≠ slot }

/-- The session with its environment changed, if it has one. -/
def change (session : Session) (change : Environment → Environment) : Session :=
  { session with environment := session.environment.map change }

/-- The session with another loader in its environment. -/
def setLoader (session : Session) (origin : Option Origin) : Session :=
  { session.change fun environment =>
      { environment with loader := origin.map fun origin => origin.kind.loader origin.listing } with
    origin := origin }

/-- The session with another listing behind its loader; only a loader that asks will notice. -/
def relist (session : Session) (edit : Listing → Listing) : Session :=
  match session.origin with
  | none => session
  | some origin =>
    let edited : Origin := { origin with listing := edit origin.listing }
    match origin.kind with
    -- An origin that is held is edited where it is. One that was asked for is set again.
    | .held => { session with origin := some edited }
    | .asked => session.setLoader (some edited)

/-- A session starts with an environment and the listing behind its loader. -/
def start (environment : Environment) (origin : Option Origin) : Session :=
  setLoader ⟨some environment, none, []⟩ origin

end Session

end Stencil
