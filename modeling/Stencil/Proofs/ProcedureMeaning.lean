import Stencil.Proofs.ComponentMeaning

/-! Carrying out the procedure of a tree gives what the interpretation of the tree gives. -/

namespace Stencil

/-- A slot that is bound anew holds what it is bound to, and the others keep what they hold. -/
theorem Bindings.datum_bind (bindings : Bindings) (slot other : Slot) (datum : Datum) :
    Bindings.datum? (Bindings.bind bindings slot datum) other =
      if slot = other then some datum else Bindings.datum? bindings other := by
  -- Binding walks along the list until it meets the slot, and so does reading.
  induction bindings with
  | nil => simp [Bindings.bind, Bindings.datum?]
  | cons binding bindings ih =>
    obtain ⟨known, old⟩ := binding
    by_cases same : known = slot
    · -- The binding in place answers for the slot and for nothing else.
      subst same
      by_cases found : known = other <;> simp [Bindings.bind, Bindings.datum?, found]
    · -- The binding in front is another slot's, which is kept and answers for that slot alone.
      by_cases found : known = other
      · have apart : ¬ slot = other := fun equal => same (found.trans equal.symm)
        simp only [Bindings.bind, Bindings.datum?, if_neg same, if_pos found, if_neg apart]
      · simp [Bindings.bind, Bindings.datum?, same, found, ih]

/-- Pieces that are joined with nothing between them stand one behind the other. -/
theorem intercalate_snoc (texts : List String) (text : String) :
    "".intercalate (texts ++ [text]) = "".intercalate texts ++ text := by
  -- The library joins two lists only if neither is empty.
  cases texts with
  | nil => simp
  | cons first texts =>
    rw [String.intercalate_append_of_ne_nil (by simp) (by simp)]
    simp

/-- A procedure is ready for more text when its slots are bound as they were at its start. -/
structure Run.Ready (run : Run) (frame : Frame) (context : Dict) (text : String) : Prop where
  -- The four slots that are set at the start and never set again.
  holdsContext : Bindings.datum? run.bindings .context = some (.value (.dict context))
  holdsTextOf : Bindings.datum? run.bindings .textOf = some (.helper .textOf)
  holdsPieces : Bindings.datum? run.bindings .pieces = some .pieces
  holdsAppend : Bindings.datum? run.bindings .append = some (.helper .append)
  /-- Only the line that was reached may have changed. -/
  sameFrame : ∀ line, run.frame.atLine line = frame.atLine line
  joined : "".intercalate run.pieces.reverse = text

/-- The text that steps come to, as it leaves the template that they belong to. -/
def delivered (source : Option String) : Except (Failure × Frame) String → Except Failure String
  | .ok text => .ok text
  | .error (failure, frame) => .error (frame.locate source failure)

/-- A template is run by carrying out its procedure from a context. -/
theorem Template.run_eq (template : Template) (services : Services) (frame : Frame)
    (context : Dict) :
    template.run services frame context =
      delivered template.source (runSteps services template.procedure
        ⟨frame, [(.context, .value (.dict context))], []⟩) := by
  simp only [Template.run]
  -- The frame that a failure comes with is where the failure is located.
  cases runSteps services template.procedure
    ⟨frame, [(.context, .value (.dict context))], []⟩ <;> rfl

/-- Steps fail with an outcome, or add its text and hand over to the steps behind them. -/
def Run.Advances (services : Services) (source : Option String) (frame : Frame) (context : Dict)
    (run : Run) (text : String) (steps rest : Procedure) : Except Failure String → Prop
  | .error failure => delivered source (runSteps services (steps ++ rest) run) = .error failure
  | .ok more => ∃ next, Run.Ready next frame context (text ++ more) ∧
      runSteps services (steps ++ rest) run = runSteps services rest next

/-- Steps come to an outcome if every run that is ready advances by it. -/
def Procedure.ComesTo (services : Services) (source : Option String) (frame : Frame)
    (context : Dict) (steps : Procedure) (outcome : Except Failure String) : Prop :=
  ∀ rest run text, Run.Ready run frame context text →
    Run.Advances services source frame context run text steps rest outcome

section

variable {services : Services} {source : Option String} {frame : Frame} {context : Dict}

/-- No steps add no text. -/
theorem comesTo_nil : Procedure.ComesTo services source frame context [] (.ok "") :=
  -- The run is handed on as it is.
  fun _ run _ ready => ⟨run, by simpa using ready, rfl⟩

/-- Steps one after another come to their texts one behind the other. -/
theorem comesTo_append {first others : Procedure} {outcome more : Except Failure String}
    (head : Procedure.ComesTo services source frame context first outcome)
    (tail : Procedure.ComesTo services source frame context others more) :
    Procedure.ComesTo services source frame context (first ++ others) (do
      let left ← outcome
      let right ← more
      .ok (left ++ right)) := by
  intro rest run text ready
  -- The first steps run with the others in front of whatever follows.
  have start := head (others ++ rest) run text ready
  cases outcome with
  | error failure => simpa [Run.Advances] using start
  | ok left =>
    -- The first steps succeed, so the others start where these have ended.
    obtain ⟨middle, middleReady, same⟩ := start
    have finish := tail rest middle _ middleReady
    -- The text of the others stands behind the text of the first.
    cases more with
    | error failure => simpa [Run.Advances, same] using finish
    | ok right =>
      obtain ⟨last, lastReady, ends⟩ := finish
      exact ⟨last, by simpa [String.append_assoc] using lastReady, by simpa [same] using ends⟩

/-- Reaching another line keeps a procedure ready. -/
theorem Run.Ready.atLine {run : Run} {text : String} (ready : run.Ready frame context text)
    (line : Int) : Run.Ready { run with frame := run.frame.atLine line } frame context text :=
  -- A frame that is moved twice stands where it was moved last.
  { ready with sameFrame := fun other => ready.sameFrame other }

/-- Binding a component's name keeps a procedure ready. -/
theorem Run.Ready.bindName {run : Run} {text : String} (ready : run.Ready frame context text)
    (datum : Datum) :
    Run.Ready { run with bindings := Bindings.bind run.bindings .componentName datum }
      frame context text where
  -- The name of the component is bound apart from everything the run relies on.
  holdsContext := by simpa [Bindings.datum_bind] using ready.holdsContext
  holdsTextOf := by simpa [Bindings.datum_bind] using ready.holdsTextOf
  holdsPieces := by simpa [Bindings.datum_bind] using ready.holdsPieces
  holdsAppend := by simpa [Bindings.datum_bind] using ready.holdsAppend
  sameFrame := ready.sameFrame
  joined := ready.joined

/-- Adding a piece keeps a procedure ready, with the piece behind the text. -/
theorem Run.Ready.addPiece {run : Run} {text : String} (ready : run.Ready frame context text)
    (more : String) :
    Run.Ready { run with pieces := more :: run.pieces } frame context (text ++ more) :=
  { ready with
    -- The pieces are kept latest first, so the new one ends the text.
    joined := by
      rw [← ready.joined]
      simpa using intercalate_snoc run.pieces.reverse more }

/-- A term that stands for an outcome is evaluated to it, and the run stays as it is. -/
theorem evaluate_stands {run : Run} {term : Term} {outcome : Except Failure Datum}
    (stands : term.Stands services ⟨run.frame, run.bindings⟩ outcome) :
    run.evaluate services term =
      match outcome with
      | .ok datum => .ok (datum, run)
      | .error failure => .error (failure, run.frame) := by
  simp only [Run.evaluate, stands run.pieces]
  -- A term leaves the pieces alone, so nothing of the run is changed.
  cases outcome <;> rfl

/-- The step that adds a term adds the text that the term yields. -/
theorem runSteps_append {run : Run} {text : String} (ready : run.Ready frame context text)
    {term : Term} {outcome : Except Failure String} (rest : Procedure)
    (yields : term.Yields services ⟨run.frame, run.bindings⟩ (outcome.map .text)) :
    runSteps services (.append term :: rest) run =
      match outcome with
      | .ok more => runSteps services rest { run with pieces := more :: run.pieces }
      | .error failure => .error (failure, run.frame) := by
  -- The helper that appends is bound, and what it is given is the term.
  have added := yields run.pieces
  simp only [Statement.append, runSteps, Run.evaluate, Term.action, actions, runAll,
    ready.holdsAppend, ok_bind]
  -- Only a text that was yielded becomes a piece.
  cases outcome with
  | error failure => simp [added]
  | ok more => simp [added, Datum.apply, Helper.apply]

/-- The step that adds a term advances by what the term yields. -/
theorem append_advances {run : Run} {text : String} (ready : run.Ready frame context text)
    {term : Term} {outcome : Except Failure String} (rest : Procedure)
    (yields : term.Yields services ⟨run.frame, run.bindings⟩ (outcome.map .text)) :
    Run.Advances services source frame context run text [.append term] rest
      (outcome.mapError (run.frame.locate source)) := by
  -- A single step either fails where its term does or leaves one more piece.
  have added := runSteps_append ready rest yields
  -- The failure is located by the frame that the step ran in.
  cases outcome with
  | error failure =>
    simp only [Run.Advances, mapError_error, List.singleton_append, added]
    rfl
  | ok more => exact ⟨_, ready.addPiece more, added⟩

/-- A slot is assigned before the steps behind it advance. -/
theorem assign_advances {run : Run} {text : String} {slot : Slot} {term : Term} {datum : Datum}
    {steps rest : Procedure} {outcome : Except Failure String}
    (stands : term.Stands services ⟨run.frame, run.bindings⟩ (.ok datum))
    (advances : Run.Advances services source frame context
      { run with bindings := Bindings.bind run.bindings slot datum } text steps rest outcome) :
    Run.Advances services source frame context run text (.assign slot term :: steps) rest
      outcome := by
  -- The assignment itself cannot fail, since its term comes to a datum.
  have assigned : runSteps services (.assign slot term :: steps ++ rest) run =
      runSteps services (steps ++ rest)
        { run with bindings := Bindings.bind run.bindings slot datum } := by
    simp [runSteps, evaluate_stands stands]
  -- So the run behind it decides in both cases.
  cases outcome with
  | error failure => simpa only [Run.Advances, assigned] using advances
  | ok more => simpa only [Run.Advances, assigned] using advances

/-- Steps fail where the term of their first assignment does. -/
theorem assign_fails {run : Run} {text : String} {slot : Slot} {term : Term} {failure : Failure}
    (stands : term.Stands services ⟨run.frame, run.bindings⟩ (.error failure))
    (steps rest : Procedure) :
    Run.Advances services source frame context run text (.assign slot term :: steps) rest
      (.error (run.frame.locate source failure)) := by
  -- The steps behind the assignment are never reached.
  simp [Run.Advances, runSteps, evaluate_stands stands, delivered]

/-- A term that is turned into text yields the text of its value. -/
theorem printed_yields {scope : Scope} {node : Node} {term : Term}
    {read : String → Except Failure Value}
    (holdsTextOf : Bindings.datum? scope.bindings .textOf = some (.helper .textOf))
    (yields : term.Yields services scope (node.value read)) :
    (Term.call (.slot .textOf) [term]).Yields services scope ((node.printed read).map .text) := by
  intro pieces
  -- The value is found first and turned into text afterwards.
  have value := yields pieces
  simp only [Term.action, actions, runAll, holdsTextOf, value, ok_bind, Node.printed]
  -- Either of the two may fail, and the first to do so is what is reported.
  cases node.value read with
  | error failure => rfl
  | ok value =>
    simp only [map_ok, ok_bind, Datum.apply, Helper.apply]
    cases ofFault value.output <;> rfl

/-- A component with a constant name has a known template. -/
theorem chooseTemplate_known {name : Node} {word : String} (known : name.knownName? = some word)
    (variant : Option String) (extension : String) :
    chooseTemplate name variant extension =
      .known word (componentPath word variant extension) := by
  unfold Node.knownName? at known
  -- Only a constant text is a known name.
  split at known
  · cases known
    rfl
  · cases known

/-- A component with any other name waits for its render. -/
theorem chooseTemplate_deferred {name : Node} (unknown : name.knownName? = none)
    (variant : Option String) (extension : String) :
    chooseTemplate name variant extension = .deferred name variant := by
  unfold Node.knownName? at unknown
  -- Every node but a constant text waits, so the other case is excluded.
  split at unknown
  · cases unknown
  · rename_i other
    unfold chooseTemplate
    split
    · exact absurd rfl (other _ _)
    · rfl

/-- A constant name is printed as its text. -/
theorem printed_known {name : Node} {word : String} (known : name.knownName? = some word)
    (read : String → Except Failure Value) : name.printed read = .ok word := by
  unfold Node.knownName? at known
  -- A constant text reads no variable and prints as itself.
  split at known
  · cases known
    rfl
  · cases known

/-- Data gives a component its styling, whatever the component is called. -/
theorem Site.styling_eq_ok {site : Site} {word : String} {line : Int} {data : Option Node}
    {styling : Styling} :
    site.styling word line data = .ok styling ↔ stylingOf data = .ok styling := by
  unfold Site.styling
  -- The word is only used to report what is wrong with the data.
  cases stylingOf data <;> simp

/-- A component whose data gives a styling is its name, its template, its data and its render. -/
theorem Surroundings.component_eq {Loaded : Type} (around : Surroundings Loaded) (site : Site)
    (frame : Frame) (context : Dict) (name : Node) (variant : Option String)
    {data : Option Node} {styling : Styling} (styled : stylingOf data = .ok styling)
    (only : Bool) :
    around.component site frame context name variant data only = (do
      let word ← name.printed (around.lookup frame context)
      let template ← around.summon site frame.line name variant word
      let base ← site.mergeBase (around.lookup frame context) context data only
      around.render frame template (componentContext word (styling.named word) base)) := by
  -- The styling is asked for last and is known, so it drops out.
  simp only [Surroundings.component, Site.styling, styled, ok_bind]

/-- The step of a known component comes to its text, when it starts at its line. -/
theorem knownSteps_advances (script : Script) {run : Run} {text : String}
    (ready : run.Ready frame context text) {name : Node} {word : String}
    (known : name.knownName? = some word) {variant : Option String} {data : Option Node}
    {only : Bool} {base : Term} (baseFound : script.site.baseTerm data only = .ok base)
    {steps : Procedure}
    (compiled : script.site.knownSteps word (componentPath word variant script.site.extension)
      run.frame.line data base = .ok steps) (rest : Procedure) :
    Run.Advances services script.source frame context run text steps rest
      (script.located run.frame (services.surroundings.component script.site run.frame context
        name variant data only)) := by
  simp only [Site.knownSteps, bind_eq_ok] at compiled
  -- There is one step, which appends the rendered component.
  obtain ⟨styling, styled, same⟩ := compiled
  cases same
  -- The path was made with the extension that the surroundings would use.
  have summoned : services.surroundings.summon script.site run.frame.line name variant word =
      loadKnown services (componentPath word variant script.site.extension) script.site.caller
        run.frame.line := by
    simp [Surroundings.summon, Surroundings.pathOf, Services.surroundings, known, loadKnown]
  -- The term of the merge base comes to the base of the component's context.
  have merged := @baseTerm_yields services ⟨run.frame, run.bindings⟩ context script.site data only
    base ready.holdsContext baseFound
  -- The fields of the component are laid over it.
  have fields := fieldsTerm_yields merged (fun _ found => Site.mergeBase_distinct found) word
    (styling.named word)
  -- The loaded template is rendered in that context.
  have rendered := renderComponent_yields
    (loadTemplate_stands script.site (componentPath word variant script.site.extension)
      run.frame.line) fields
  -- The interpretation takes the same steps in the same order.
  rw [Surroundings.component_eq _ _ _ _ _ _ (Site.styling_eq_ok.1 styled),
    printed_known known, ok_bind, summoned]
  simp only [map_bind] at rendered
  exact append_advances ready rest rendered

/-- The steps of a deferred component come to its text, when they start at its line. -/
theorem deferredSteps_advances (script : Script) {run : Run} {text : String}
    (ready : run.Ready frame context text) {name : Node} (unknown : name.knownName? = none)
    {variant : Option String} {data : Option Node} {only : Bool} {base : Term}
    (baseFound : script.site.baseTerm data only = .ok base) {steps : Procedure}
    (compiled : script.site.deferredSteps name variant run.frame.line data base = .ok steps)
    (rest : Procedure) :
    Run.Advances services script.source frame context run text steps rest
      (script.located run.frame (services.surroundings.component script.site run.frame context
        name variant data only)) := by
  simp only [Site.deferredSteps, bind_eq_ok] at compiled
  -- There are two steps: the name is assigned, then the rendered component is appended.
  obtain ⟨_, _, styling, styled, nameTerm, nameFound, same⟩ := compiled
  cases same
  rw [Surroundings.component_eq _ _ _ _ _ _ (Site.styling_eq_ok.1 styled)]
  -- The name is an expression, which is evaluated and printed.
  have value := @term_yields script.site services ⟨run.frame, run.bindings⟩ context
    ready.holdsContext name nameTerm nameFound
  have printed := printed_yields ready.holdsTextOf value
  -- Without a name there is no component.
  cases called : name.printed (services.lookup run.frame context) with
  | error failure =>
    rw [called] at printed
    simpa [Services.surroundings, called, Script.located] using
      assign_fails printed [renderStep _ _] rest
  | ok word =>
    rw [called] at printed
    refine assign_advances printed ?_
    -- The component is named from here on, and nothing else has changed.
    have ready := ready.bindName (.value (.text word))
    -- The base is found in the bindings that now hold the name too.
    have merged := @baseTerm_yields services
      ⟨run.frame, Bindings.bind run.bindings .componentName (.value (.text word))⟩ context
      script.site data only base ready.holdsContext baseFound
    have named : Bindings.datum?
        (Bindings.bind run.bindings .componentName (.value (.text word))) .componentName =
        some (.value (.text word)) := by
      simp [Bindings.datum_bind]
    -- The template and the context are both made from the name in the slot.
    have rendered := renderComponent_yields
      (loadComponent_stands script.site variant run.frame.line named)
      (buildContext_yields styling named merged)
    -- The interpretation loads the same path, made from the printed name.
    have summoned : services.surroundings.summon script.site run.frame.line name variant word =
        loadDeferred services word variant script.site.caller run.frame.line := by
      simp [Surroundings.summon, Surroundings.pathOf, Services.surroundings, unknown, loadDeferred]
    simp only [map_bind] at rendered
    simp only [Services.surroundings] at called summoned ⊢
    rw [called, ok_bind, summoned]
    exact append_advances ready rest rendered

/-- The steps of a component come to its text, when they start at its line. -/
theorem componentSteps_advances (script : Script) {run : Run} {text : String}
    (ready : run.Ready frame context text) {name : Node} {variant : Option String}
    {data : Option Node} {only : Bool} {steps : Procedure}
    (compiled : script.site.componentSteps run.frame.line name variant data only = .ok steps)
    (rest : Procedure) :
    Run.Advances services script.source frame context run text steps rest
      (script.located run.frame (services.surroundings.component script.site run.frame context
        name variant data only)) := by
  simp only [Site.componentSteps, bind_eq_ok] at compiled
  obtain ⟨base, baseFound, chosen⟩ := compiled
  -- The name alone decides which kind of steps were made.
  cases known : name.knownName? with
  | some word =>
    rw [chooseTemplate_known known] at chosen
    exact knownSteps_advances script ready known baseFound chosen rest
  | none =>
    rw [chooseTemplate_deferred known] at chosen
    exact deferredSteps_advances script ready known baseFound chosen rest

/-- The line that is marked is the line of the frame that the steps behind it see. -/
theorem mark_comesTo {line : Int} {steps : Procedure} {outcome : Except Failure String}
    (advances : ∀ run text rest, Run.Ready run frame context text →
      run.frame = frame.atLine line →
      Run.Advances services source frame context run text steps rest outcome) :
    Procedure.ComesTo services source frame context (.markLine line :: steps) outcome := by
  intro rest run text ready
  -- A run is at the marked line from the first of these steps on.
  have after := advances _ text rest (ready.atLine line) (ready.sameFrame line)
  cases outcome with
  | error failure => exact after
  | ok more => exact after

/-- The steps of a node come to its text. -/
theorem nodeSteps_comesTo (script : Script) {node : Node} {steps : Procedure}
    (compiled : script.site.nodeSteps node = .ok steps) :
    Procedure.ComesTo services script.source frame context steps
      (script.nodeText services.surroundings frame context node) := by
  cases node with
  | data position words =>
    cases compiled
    -- Text that is empty has no step at all.
    by_cases empty : words.isEmpty = true
    · obtain rfl : words = "" := by simpa using empty
      exact comesTo_nil
    · intro rest run text ready
      -- Other text is appended as it stands, and this cannot fail.
      have yields : (Term.text words).Yields services ⟨run.frame, run.bindings⟩
          (Except.map Value.text (.ok words)) := text_yields words
      simp only [empty, Bool.false_eq_true, if_false]
      exact append_advances ready rest yields
  | output position expression =>
    simp only [Site.nodeSteps, bind_eq_ok] at compiled
    obtain ⟨term, found, same⟩ := compiled
    cases same
    refine mark_comesTo fun run text rest ready reached => ?_
    -- An output marks its line, evaluates its expression and appends the text.
    have value := @term_yields script.site services ⟨run.frame, run.bindings⟩ context
      ready.holdsContext expression term found
    have printed := printed_yields ready.holdsTextOf value
    have advances := @append_advances services script.source frame context run text ready _ _ rest
      printed
    rwa [reached] at advances
  | component position name variant data only =>
    simp only [Site.nodeSteps, bind_eq_ok] at compiled
    obtain ⟨inner, found, same⟩ := compiled
    cases same
    refine mark_comesTo fun run text rest ready reached => ?_
    -- A component marks its line too, and its steps were made for that line.
    have line : run.frame.line = position.line := by rw [reached]; rfl
    rw [← line] at found
    have advances := @componentSteps_advances services frame context script run text ready _ _ _ _
      _ found rest
    rwa [reached] at advances
  -- No other node stands in a body, and none adds any text.
  | _ =>
    cases compiled
    exact comesTo_nil

/-- The steps of a body come to the texts of its nodes one behind the other. -/
theorem bodySteps_comesTo (script : Script) {nodes : List Node} {steps : Procedure}
    (compiled : script.site.bodySteps nodes = .ok steps) :
    Procedure.ComesTo services script.source frame context steps
      (script.bodyText services.surroundings frame context nodes) := by
  -- The steps of the first node are followed by the steps of the others.
  induction nodes generalizing steps with
  | nil =>
    cases compiled
    exact comesTo_nil
  | cons node nodes ih =>
    simp only [Site.bodySteps, bind_eq_ok] at compiled
    obtain ⟨first, head, others, tail, same⟩ := compiled
    cases same
    exact comesTo_append (nodeSteps_comesTo script head) (ih tail)

/-- The opening of a procedure makes it ready, with no text yet. -/
theorem opening_ready :
    ∃ run, Run.Ready run frame context "" ∧ ∀ steps,
      runSteps services (Procedure.opening ++ steps)
        ⟨frame, [(.context, .value (.dict context))], []⟩ = runSteps services steps run :=
  -- The four slots of the opening are bound one after the other.
  ⟨⟨frame, [(.context, .value (.dict context)), (.textOf, .helper .textOf), (.pieces, .pieces),
      (.append, .helper .append)], []⟩,
    ⟨rfl, rfl, rfl, rfl, fun _ => rfl, by simp⟩, fun _ => rfl⟩

/-- The closing of a procedure gives the text that it is ready with. -/
theorem closing_gives {run : Run} {text : String} (ready : run.Ready frame context text) :
    runSteps services Procedure.closing run = .ok text := by
  -- The pieces are turned round and joined, which is the text by readiness.
  simp [Procedure.closing, runSteps, Run.evaluate, Term.action, actions, runAll, Term.text,
    Datum.method, Datum.apply, Helper.apply, ready.holdsPieces, ready.joined]

/-- A template runs to the text of the script that it was made from. -/
theorem run_compiled {script : Script} {template : Template}
    (compiled : script.compile = .ok template) :
    template.run services frame context = script.text services.surroundings frame context := by
  simp only [Script.compile, Site.procedure, bind_eq_ok] at compiled
  -- A procedure is its opening, the steps of the body, and its closing.
  obtain ⟨procedure, ⟨steps, body, shape⟩, _, _, _, _, same⟩ := compiled
  cases shape
  cases same
  obtain ⟨start, ready, opened⟩ := @opening_ready services frame context
  -- The body runs from the run that the opening ends in, with the closing behind it.
  have advances := @bodySteps_comesTo services frame context script _ _ body Procedure.closing
    start "" ready
  rw [Template.run_eq, List.append_assoc, opened, Script.text]
  -- Either the body fails and the closing is never reached, or the closing gives the text.
  cases outcome : script.bodyText services.surroundings frame context script.tree.body with
  | error failure =>
    rw [outcome] at advances
    exact advances
  | ok text =>
    rw [outcome] at advances
    obtain ⟨last, ends, same⟩ := advances
    rw [same, closing_gives ends]
    simp [delivered]

end

end Stencil
