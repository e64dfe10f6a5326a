import Stencil.Proofs.Activation
import Stencil.Proofs.FirstReads
import Stencil.Proofs.ReadDerived

/-! What a step fails with: it says by itself where it arose, is found without a render, or is
raised by the host program. -/

namespace Stencil

/-- A failure that arises in a frame and can be told: an undefined variable is reported there, and
no other failure says that it belongs to a render. -/
def Failure.ArisesIn (frame : Frame) : Failure → Prop
  | .diagnostic (.undefined fault) =>
    fault.template = nameOrUnnamed frame.template ∧ fault.line = some frame.line ∧
      fault.snippet = frame.snippetOf frame.source
  | .diagnostic (.runtime _) | .mishap (.untold _ _) => False
  | _ => True

/-- What is found without a render can arise in any frame. -/
theorem Failure.IsEarly.arises {failure : Failure} (early : failure.IsEarly) (frame : Frame) :
    failure.ArisesIn frame := by
  -- The kinds of failure that are excluded are the same, but for undefined variables.
  unfold Failure.ArisesIn
  split
  · exact early.elim
  · exact early.elim
  · exact early.elim
  · trivial

/-- The report that a fault of the host program ends in, once what cannot be told has given way. -/
def Fault.report? : Fault → Option Diagnostic
  | .raised _ _ => none
  | .untold _ other => other.report?
  | .library report => some report

/-- The report that a failure ends in, if no script locates it before. -/
def Failure.report? : Failure → Option Diagnostic
  | .diagnostic report => some report
  | .mishap (.untold _ other) => other.report?
  | .mishap _ => none

/-- A fault ends in the same report once it is a failure. -/
theorem Fault.failure_report (fault : Fault) : fault.failure.report? = fault.report? := by
  -- One case per kind of fault.
  cases fault <;> rfl

/-- What arises in a frame and ends in a report is that report. -/
theorem Failure.ArisesIn.report {frame : Frame} {failure : Failure}
    (arises : failure.ArisesIn frame)
    {report : Diagnostic} (ended : failure.report? = some report) :
    failure = .diagnostic report := by
  -- Only a mishap that cannot be told ends in a report of another failure.
  unfold Failure.report? at ended
  split at ended
  · cases ended
    rfl
  · exact arises.elim
  · cases ended

/-- What a script makes of a failure ends in the report of the failure, or is located. -/
theorem locate_report {frame : Frame} {source : Option String} {failure : Failure}
    {report : Diagnostic} (ended : (frame.locate source failure).report? = some report) :
    failure.report? = some report ∨
      ∃ fault, report = .runtime fault ∧ fault.code = .runtimeError := by
  cases failure with
  | diagnostic other => exact .inl ended
  | mishap accident =>
    cases told : accident.message with
    | ok text =>
      simp only [Frame.locate, told, Failure.report?, Option.some.injEq] at ended
      exact .inr ⟨_, ended.symm, rfl⟩
    | error other =>
      -- What goes wrong in the telling is all that is left.
      obtain ⟨kind, untold⟩ := @Failure.message_told (.mishap accident) _ told
      simp only [Frame.locate, told, Fault.failure_report] at ended
      exact .inl (untold ▸ ended)

/-- What leaves scripts ends in the report of what failed, or has been located by one of them. -/
theorem leave_report {own : Failure} {frame : Frame} {callers : Callers} {report : Diagnostic}
    (ended : (own.leave frame callers).report? = some report) :
    own.report? = some report ∨ ∃ fault, report = .runtime fault ∧ fault.code = .runtimeError := by
  -- The induction is on the scripts, each of which keeps the report or locates what is not one.
  induction callers generalizing frame with
  | nil => exact .inl ended
  | cons caller inner ih =>
    rcases locate_report ended with inside | located
    · exact ih inside
    · exact .inr located

/-- An undefined variable that leaves scripts was reported by what failed, as no script makes such a
report on the way out. -/
theorem leave_undefined {own : Failure} {frame : Frame} {callers : Callers} {fault : UndefinedFault}
    (left : .diagnostic (.undefined fault) = own.leave frame callers) :
    own.report? = some (.undefined fault) := by
  have ended : (own.leave frame callers).report? = some (.undefined fault) := by
    rw [← left, Failure.report?]
  -- A script locates a failure as one of the render.
  exact (leave_report ended).resolve_right (by rintro ⟨_, ⟨⟩, _⟩)

/-- A source that cannot be read is malformed, or has a number that cannot be read. -/
theorem readTemplate_early {name file : Option String} {source : String} {failure : Failure}
    (refused : readTemplate name file source = .error failure) : failure.IsEarly := by
  rcases bind_eq_error.1 refused with tokens | ⟨tokens, _, tree⟩
  · -- Either the text cannot be cut into tokens, or the tokens are no tree.
    unfold readTokens at tokens
    split at tokens
    · cases tokens
    · cases tokens
      trivial
  · unfold readTree at tree
    split at tree <;> cases tree <;> trivial

/-- A check of names or of a procedure that is not passed can be told. -/
theorem checked_early {outcome : Except Mishap Unit} {failure : Failure}
    (told : ∀ accident, outcome = .error accident → (Failure.mishap accident).IsEarly)
    (refused : Environment.checked outcome = .error failure) : failure.IsEarly := by
  -- The check passes on the accident it was given.
  cases outcome with
  | ok _ => cases refused
  | error accident =>
    cases refused
    exact told accident rfl

/-- A name that is refused has a character that no name may have. -/
theorem checkNames_early {name file : Option String} {accident : Mishap}
    (refused : checkNames name file = .error accident) : (Failure.mishap accident).IsEarly := by
  -- A name the host cannot use is told before anything runs.
  unfold checkNames at refused
  split at refused <;> cases refused
  trivial

/-- A tree that was read is not compiled only because its data or its name is to blame. -/
theorem compile_early {script : Script} (written : ∀ node ∈ script.tree.body, node.IsStatement)
    {failure : Failure} (refused : script.compile = .error failure) : failure.IsEarly := by
  have compiled := compile_written written
  rw [refused] at compiled
  -- The data comes first, and the name is checked only behind it.
  cases found : script.refusal? with
  | some other =>
    obtain ⟨fault, rfl⟩ := Script.refusal?_invalid found
    simp only [found, map_error, Option.elim, Except.error.injEq] at compiled
    subst compiled
    trivial
  | none =>
    simp only [found, map_error, Option.elim] at compiled
    exact checked_early (fun _ => checkNames_early) compiled.symm

/-- The loader of an environment fails with a fault under some name. -/
def Environment.LoaderRaises (environment : Environment) (fault : Fault) : Prop :=
  ∃ loader path, environment.loader = some loader ∧ loader.source? path = .error fault

/-- The host program may answer a render in a context with a fault: its loader does, or something in
the context. -/
def Environment.Raises (environment : Environment) (context : Dict) (fault : Fault) : Prop :=
  environment.LoaderRaises fault ∨ (Value.dict context).Raises fault

/-- A template that cannot be loaded is missing or malformed, or its loader fails. -/
theorem script_early {environment : Environment} {path : String} {failure : Failure}
    (refused : environment.script path = .error failure) :
    failure.IsEarly ∨ failure.IsRaised environment.LoaderRaises := by
  rcases bind_eq_error.1 refused with absent | ⟨source, _, behind⟩
  · unfold Environment.load at absent
    split at absent
    · -- A loader answers that there is no source, or fails in its own way.
      rename_i loader some
      unfold Loader.source at absent
      rcases bind_eq_error.1 absent with raised | ⟨source, _, missing⟩
      · exact .inr (ofFault_failed (fun fault failed => ⟨loader, path, some, failed⟩) raised)
      · cases source with
        | none =>
          cases missing
          exact .inl trivial
        | some source => cases missing
    · cases absent
      exact .inl trivial
  · rcases bind_eq_error.1 behind with unread | ⟨tree, read, behind⟩
    · exact .inl (readTemplate_early unread)
    · rcases bind_eq_error.1 behind with unmade | ⟨_, _, impossible⟩
      · exact .inl (compile_early (readTemplate_written read) unmade)
      · cases impossible

/-- A constant of classes or modifiers that has no text raises the fault that it fails with. -/
theorem styleText_raises {value : Value} {fault : DataFault}
    (failed : styleText value = .error fault) :
    ∃ cause, fault = .raised cause ∧ value.Raises cause := by
  unfold styleText at failed
  -- Null and truth values are not asked for a text.
  split at failed
  · cases failed
  · cases failed
  · obtain ⟨cause, unprinted, rfl⟩ := mapError_eq_error.1 failed
    exact ⟨cause, rfl, Value.print_raises unprinted⟩

/-- Items of classes or modifiers that fail have one that raises the fault, or there is a problem.
-/
theorem styleItems_raises {key : String} {items : List Node} {cause : Fault}
    (failed : styleItems key items = .error (.raised cause)) : Node.AnyRaises cause items := by
  -- Only a constant is turned into a text, and its own text is what failed.
  induction items with
  | nil => cases failed
  | cons item items ih =>
    cases item with
    | constant position value =>
      rcases bind_eq_error.1 failed with first | ⟨_, _, behind⟩
      · obtain ⟨other, ⟨⟩, raises⟩ := styleText_raises first
        exact .inl raises
      · rcases bind_eq_error.1 behind with others | ⟨_, _, impossible⟩
        · exact .inr (ih others)
        · cases impossible
    | _ => cases failed

/-- Data of one pair that fails raises the fault, or there is a problem with it. -/
theorem pairStyling_raises {key value : Node} {cause : Fault}
    (failed : pairStyling key value = .error (.raised cause)) : value.Raises cause := by
  -- Whatever the key is, the texts of the value decide.
  have texts {word : String} (failed : textsUnder word value = .error (.raised cause)) :
      value.Raises cause := by
    have unclear := map_eq_error.1 failed
    cases value with
    | constant position value =>
      obtain ⟨other, ⟨⟩, raises⟩ := styleText_raises (map_eq_error.1 unclear)
      exact raises
    | list position items => exact styleItems_raises (map_eq_error.1 unclear)
    | _ => cases unclear
  unfold pairStyling at failed
  split at failed
  · exact texts (map_eq_error.1 failed)
  · exact texts (map_eq_error.1 failed)
  · exact texts (map_eq_error.1 failed)
  · split at failed <;> cases failed
  · cases failed

/-- Pairs that fail have a value that raises the fault, or there is a problem with them. -/
theorem pairsStyling_raises {keys values : List Node} {cause : Fault}
    (failed : pairsStyling keys values = .error (.raised cause)) : Node.AnyRaises cause values := by
  -- The pairs are styled in their order. The first one that fails decides.
  induction keys generalizing values with
  | nil => cases values <;> cases failed
  | cons key keys ih =>
    cases values with
    | nil => cases failed
    | cons value values =>
      rcases bind_eq_error.1 failed with first | ⟨_, _, behind⟩
      · exact .inl (pairStyling_raises first)
      · rcases bind_eq_error.1 behind with others | ⟨_, _, impossible⟩
        · exact .inr (ih others)
        · cases impossible

/-- Data that fails raises the fault, or there is a problem with it. -/
theorem stylingOf_raises {data : Option Node} {cause : Fault}
    (failed : stylingOf data = .error (.raised cause)) : ∃ node ∈ data, node.Raises cause := by
  -- The styling is read from the values of a hash and from nothing else.
  unfold stylingOf at failed
  split at failed
  · cases failed
  · exact ⟨_, rfl, .inr (pairsStyling_raises failed)⟩
  · cases failed

section

variable {environment : Environment} {strict : Bool} {site : Site} {line : Int} {name : Node}
  {variant : Option String} {word : String} {allowed : Fault → Prop}

/-- A template that cannot be summoned is reported before anything of it is rendered, or its loader
fails. -/
theorem summon_early {failure : Failure}
    (refused : (environment.components strict).summon site line name variant word =
      .error failure) : failure.IsEarly ∨ failure.IsRaised environment.LoaderRaises := by
  obtain ⟨other, unloaded, rfl⟩ := mapError_eq_error.1 refused
  have early := script_early unloaded
  -- A missing template is reported in another way, but still as missing.
  split
  · unfold Failure.missedKnown
    split
    · exact .inl trivial
    · exact early
  · unfold Failure.missedDeferred
    split
    · exact .inl trivial
    · exact early

/-- Data without a styling is to blame before anything is rendered, unless a constant in it fails.
-/
theorem styling_early {data : Option Node} (only : ∀ node ∈ data, node.RaisesOnly allowed)
    {failure : Failure} (refused : site.styling word line data = .error failure) :
    failure.IsEarly ∨ failure.IsRaised allowed := by
  unfold Site.styling at refused
  split at refused
  · cases refused
  · rename_i fault unstyled
    cases refused
    cases fault with
    | raised cause =>
      obtain ⟨node, given, raises⟩ := stylingOf_raises unstyled
      -- Only a report about data is placed anew, which is no report of a render.
      simp only [DataFault.failure]
      unfold Failure.invoked
      split
      · exact .inl trivial
      · exact .inr ⟨cause, only node given cause raises, rfl⟩
    | _ => exact .inl trivial

/-- A variable that cannot be read is reported in the frame where it is read. -/
theorem lookupIn_arises {frame : Frame} {context : Dict} {failure : Failure}
    (refused : lookupIn strict frame context word = .error failure) : failure.ArisesIn frame := by
  unfold lookupIn lookupStrict at refused
  split at refused
  · split at refused
    · cases refused
    · cases refused
      -- Among names that are no texts there is no search, and its failure is a mishap.
      unfold undefinedIn undefinedVariable
      split
      · trivial
      · exact ⟨rfl, rfl, rfl⟩
  · cases refused

end

namespace Activation

/-- How an activation reads a variable on one of its lines. -/
def read (active : Activation) (line : Int) : String → Except Failure Value :=
  lookupIn active.script.strict (active.frame.atLine line) active.context

/-- A node that is evaluated comes to reading a variable: for what it prints, for the name of its
component, or for the data of a component whose template is found. -/
inductive Asks (environment : Environment) (active : Activation) (word : String) : Node → Prop
  | output {position : Position} {expression : Node} :
      expression.ComesTo (active.read position.line) word →
      Asks environment active word (.output position expression)
  -- The name of a component is evaluated first.
  | called {position : Position} {name : Node} {variant : Option String} {data : Option Node}
      {only : Bool} : name.ComesTo (active.read position.line) word →
      Asks environment active word (.component position name variant data only)
  -- Its data is evaluated once the component is loaded.
  | given {position : Position} {name data : Node} {variant : Option String} {only : Bool}
      {called : String} {component : Script} :
      name.printed (active.read position.line) = .ok called →
      (environment.components active.script.strict).summon active.script.site position.line name
        variant called = .ok component →
      data.ComesTo (active.read position.line) word →
      Asks environment active word (.component position name variant (some data) only)

/-- A node fails with the variable that it comes to. -/
theorem Asks.effect_eq_error {environment : Environment} {active : Activation} {node : Node}
    {word : String} {failure : Failure} (asks : active.Asks environment word node)
    (failed : active.read node.line word = .error failure) :
    active.effect environment node = .error failure := by
  cases asks with
  | output comes =>
    exact map_eq_error.2 (bind_eq_error.2 (.inl (comes.value_eq_error failed)))
  | called comes =>
    exact map_eq_error.2 (bind_eq_error.2 (.inl (bind_eq_error.2 (.inl
      (comes.value_eq_error failed)))))
  | @given position _ data _ _ _ _ named summoned comes =>
    -- The data is evaluated behind the name and the template.
    have entries : dataEntries (active.read position.line) (some data) = .error failure :=
      bind_eq_error.2 (.inl (comes.value_eq_error failed))
    exact map_eq_error.2 (bind_eq_error.2 (.inr ⟨_, named, bind_eq_error.2 (.inr ⟨_, summoned,
      bind_eq_error.2 (.inl (bind_eq_error.2 (.inl entries)))⟩)⟩))

/-- All that an activation has at hand, its loader included, raises only faults that are allowed. -/
structure RaisesOnly (environment : Environment) (allowed : Fault → Prop) (active : Activation) :
    Prop where
  loader : ∀ fault, environment.LoaderRaises fault → allowed fault
  context : (Value.dict active.context).RaisesOnly allowed
  nodes : ∀ node ∈ active.script.tree.body, node.RaisesOnly allowed

section

variable {environment : Environment} {active last : Activation} {allowed : Fault → Prop}
  {node : Node} {callers : Callers}

/-- A component raises what its name and its data do. -/
theorem raisesOnly_component {position : Position} {name : Node} {variant : Option String}
    {data : Option Node} {only : Bool}
    (within : (Node.component position name variant data only).RaisesOnly allowed) :
    name.RaisesOnly allowed ∧ ∀ given ∈ data, given.RaisesOnly allowed := by
  -- The values of the tag are those of its name and of its data.
  cases data with
  | none => exact ⟨within, nofun⟩
  | some given =>
    refine ⟨fun fault raises => within fault (.inl raises), ?_⟩
    rintro _ ⟨⟩
    exact fun fault raises => within fault (.inr raises)

/-- What a variable comes to raises what is allowed. -/
theorem RaisesOnly.read (only : active.RaisesOnly environment allowed) (line : Int) :
    ∀ word value, active.read line word = .ok value → value.RaisesOnly allowed :=
  -- A variable is read from the context.
  fun _ _ found => lookupIn_raisesOnly only.context found

/-- A node that fails does so with a variable that it comes to, or with a failure that is found
without a render, or as the host program has raised it. -/
theorem effect_failed (only : active.RaisesOnly environment allowed)
    (within : node ∈ active.script.tree.body) {failure : Failure}
    (failed : active.effect environment node = .error failure) :
    failure.ComesFrom (fun word => active.Asks environment word node) (active.read node.line)
      allowed := by
  have raises := only.nodes node within
  cases node with
  | output position expression =>
    have printed := @Node.printed_failed _ _ _ (only.read position.line) expression raises
      (map_eq_error.1 failed)
    exact printed.within fun _ comes => .output comes
  | component position name variant data cutOff =>
    obtain ⟨called, given⟩ := raisesOnly_component raises
    -- The name, the template, the data and the styling come one after another.
    rcases bind_eq_error.1 (map_eq_error.1 failed) with unnamed | ⟨word, named, behind⟩
    · have printed := Node.printed_failed (only.read position.line) called unnamed
      exact printed.within fun _ comes => .called comes
    rcases bind_eq_error.1 behind with absent | ⟨component, summoned, behind⟩
    · rcases summon_early absent with early | ⟨fault, raised, same⟩
      · exact .early early
      · exact .raised ⟨fault, only.loader fault raised, same⟩
    rcases bind_eq_error.1 behind with unmerged | ⟨base, merged, behind⟩
    · rcases bind_eq_error.1 unmerged with entries | ⟨_, _, impossible⟩
      · cases data with
        | none => cases entries
        | some data =>
          rcases bind_eq_error.1 entries with missing | ⟨value, _, shaped⟩
          · have evaluated := Node.value_failed (only.read position.line) data (given data rfl)
              missing
            exact evaluated.within fun _ comes => .given named summoned comes
          · -- What is no dictionary cannot be data.
            cases value <;> cases shaped <;> exact .early trivial
      · cases impossible
    rcases bind_eq_error.1 behind with unstyled | ⟨_, _, impossible⟩
    · exact (styling_early given unstyled).elim .early .raised
    · cases impossible
  | _ => cases failed

/-- What a node fails with before any component is let in arises in its frame, on its line, or is
raised by the host program. -/
theorem effect_arises (only : active.RaisesOnly environment allowed)
    (within : node ∈ active.script.tree.body) {failure : Failure}
    (failed : active.effect environment node = .error failure) :
    failure.ArisesIn (active.frame.atLine node.line) ∨ failure.IsRaised allowed := by
  -- A step fails in a lookup, in a check or in the host: the first two are reported where the frame
  -- stands.
  cases effect_failed only within failed with
  | missed _ absent => exact .inl (lookupIn_arises absent)
  | early early => exact .inl (early.arises _)
  | raised raised => exact .inr raised

/-- A script that is loaded was written as a source, so that it raises nothing. -/
theorem script_raisesOnly {path : String} {script : Script}
    (loaded : environment.script path = .ok script) :
    ∀ node ∈ script.tree.body, node.RaisesOnly allowed := by
  -- What was read was written in a source, and written values raise nothing.
  obtain ⟨_, _, _, _, read, rfl, _⟩ := Environment.script_eq_ok.1 loaded
  exact fun node among fault raises =>
    absurd raises (Node.IsStatement.not_raises (readTemplate_written read node among))

/-- A node that is reached is one of the script. -/
theorem Reaches.within (reached : active.Reaches environment node) :
    node ∈ active.script.tree.body := by
  -- The node splits the body it was reached in.
  obtain ⟨before, after, _, split, _⟩ := reached
  simp [split]

/-- Whatever is entered raises only what is allowed, if what has entered it does. -/
theorem Enters.raisesOnly (entered : active.Enters environment callers last)
    (only : active.RaisesOnly environment allowed) : last.RaisesOnly environment allowed := by
  induction entered with
  | here active => exact only
  | @through active last node component inner callers reached opened _ ih =>
    obtain ⟨position, name, variant, data, cutOff, rfl, invoked⟩ :=
      effect_opens (step_opens.1 opened).1
    obtain ⟨path, _, loaded⟩ := invocation_loaded invoked
    obtain ⟨_, given⟩ := raisesOnly_component (only.nodes _ reached.within)
    -- The context of the component is made of what its caller has at hand.
    exact ih ⟨only.loader, invocation_raisesOnly (only.read position.line) only.context given
      invoked, script_raisesOnly loaded⟩

end

end Activation

/-- The root of a render of a source raises what the loader and the context do. -/
theorem root_raisesOnly {maker environment : Environment} {source : String}
    {name file : Option String} {tree : Node} (read : readTemplate name file source = .ok tree)
    (context : Dict) :
    (environment.root (maker.scriptOf tree name file (some source)) context).RaisesOnly environment
      (environment.Raises context) where
  -- The nodes were read from a source. That leaves the loader and the context, each with the faults
  -- it may raise.
  loader _ raised := .inl raised
  context _ raises := .inr raises
  nodes node among _ raises :=
    absurd raises (Node.IsStatement.not_raises (readTemplate_written read node among))

end Stencil
