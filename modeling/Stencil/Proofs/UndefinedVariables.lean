import Mathlib
import Stencil.Proofs.ComponentScope
import Stencil.Proofs.ErrorPlace
import Stencil.Proofs.FirstReads
import Stencil.Proofs.Isolation

/-! What a render fails with when it reads a variable that is not defined. -/

namespace Stencil

/-- Only texts are the same keys as texts. -/
theorem Value.sameKey_isText {left right : Value} (same : left.sameKey right = true) :
    (∃ word, left = .text word) ↔ ∃ word, right = .text word := by
  have text (value : Value) :
      (∃ word, value = .text word) ↔ ∃ word, value.key? = some (.text word) := by
    constructor
    · rintro ⟨word, rfl⟩
      exact ⟨word, rfl⟩
    · rintro ⟨word, key⟩
      cases value with
      | text other => exact ⟨other, rfl⟩
      | float identity number =>
        -- A double is a number, infinite, or no number at all.
        simp only [Value.key?, Option.some.injEq] at key
        unfold doubleKey at key
        split at key <;> cases key
      | _ => cases key
  rw [Value.sameKey_eq, Bool.and_eq_true, decide_eq_true_eq] at same
  rw [text, text, same.2]

/-- Keys stay texts just if the key that is assigned is one. -/
theorem Dict.isTextual_assign {entries : Dict} {key value : Value} :
    Dict.IsTextual (Dict.assign entries key value) ↔
      Dict.IsTextual entries ∧ ∃ word, key = .text word := by
  induction entries with
  | nil => simp [Dict.assign, Dict.IsTextual]
  | cons entry entries ih =>
    obtain ⟨known, old⟩ := entry
    have head (value : Value) (rest : Dict) : Dict.IsTextual ((known, value) :: rest) ↔
        (∃ word, known = .text word) ∧ Dict.IsTextual rest := by simp [Dict.IsTextual]
    by_cases same : known.sameKey key = true
    · -- The key in place is a text just if the new one is.
      have kept := Value.sameKey_isText same
      simp only [Dict.assign, if_pos same, head]
      tauto
    · simp only [Dict.assign, if_neg same, head, ih]
      tauto

/-- All keys of layers are texts just if all keys of each layer are. -/
theorem Dict.isTextual_merge {base added : Dict} :
    Dict.IsTextual (Dict.merge base added) ↔ Dict.IsTextual base ∧ Dict.IsTextual added := by
  -- A merge assigns the added entries one after another, and each assignment keeps the keys that
  -- are there.
  induction added generalizing base with
  | nil => simp [Dict.merge, Dict.IsTextual]
  | cons entry added ih =>
    have first : Dict.merge base (entry :: added) =
        Dict.merge (Dict.assign base entry.1 entry.2) added := rfl
    have head : Dict.IsTextual (entry :: added) ↔
        (∃ word, entry.1 = .text word) ∧ Dict.IsTextual added := by simp [Dict.IsTextual]
    rw [first, ih, Dict.isTextual_assign, head, and_assoc]

/-- The keys of named values are texts. -/
theorem namedEntries_textual (fields : List (String × Value)) :
    Dict.IsTextual (namedEntries fields) := by
  -- The fields are named by texts.
  intro entry member
  obtain ⟨field, _, rfl⟩ := List.mem_map.1 member
  exact ⟨field.1, rfl⟩

/-- Names of arguments are texts. -/
theorem checkKeywords_textual {keywords : Dict} (named : checkKeywords keywords = .ok ()) :
    Dict.IsTextual keywords := by
  -- The check passes an entry only if its key is a text, and goes on with the entries behind it.
  induction keywords with
  | nil => simp [Dict.IsTextual]
  | cons entry keywords ih =>
    obtain ⟨key, value⟩ := entry
    have others : ∃ word, key = .text word ∧ checkKeywords keywords = .ok () := by
      unfold checkKeywords at named
      split at named
      · rename_i impossible
        cases impossible
      · obtain ⟨_, _, taken⟩ := bind_eq_ok.1 named
        cases taken
      · rename_i same
        cases same
        exact ⟨_, rfl, named⟩
      · cases named
    obtain ⟨word, rfl, others⟩ := others
    intro entry member
    rcases List.mem_cons.1 member with rfl | member
    · exact ⟨word, rfl⟩
    · exact ih others entry member

/-- The keys of a root context are texts just if those of the globals and of the argument are. -/
theorem rootContext_textual {globals keywords context : Dict} {arguments : List Value}
    (named : checkKeywords keywords = .ok ())
    (rooted : rootContext globals arguments keywords = .ok context) :
    Dict.IsTextual context ↔ Dict.IsTextual globals ∧ Dict.IsTextual (givenEntries arguments) := by
  -- Keywords are textual once they are checked, which leaves the globals and the given mapping.
  have words := checkKeywords_textual named
  have none : Dict.IsTextual [] := by simp [Dict.IsTextual]
  unfold rootContext at rooted
  split at rooted
  · cases rooted
    rw [Dict.isTextual_merge]
    exact ⟨fun textual => ⟨textual.1, none⟩, fun textual => ⟨textual.1, words⟩⟩
  · cases rooted
    rw [Dict.isTextual_merge, Dict.isTextual_merge]
    exact ⟨fun textual => textual.1, fun textual => ⟨textual, words⟩⟩
  · cases rooted

/-- No close name can be searched for among keys one of which is no text. -/
theorem nameTexts_mixed {entries : Dict} (mixed : ¬Dict.IsTextual entries) :
    ∃ kind, nameTexts (entries.map (·.1)) = .error kind := by
  induction entries with
  | nil => exact absurd (by simp [Dict.IsTextual]) mixed
  | cons entry entries ih =>
    obtain ⟨key, value⟩ := entry
    cases key with
    | text word =>
      -- The key that is no text stands behind.
      have rest : ¬Dict.IsTextual entries := fun textual =>
        mixed (by simpa [Dict.IsTextual] using textual)
      obtain ⟨kind, found⟩ := ih rest
      exact ⟨kind, by simp [nameTexts, found]⟩
    | _ => exact ⟨_, rfl⟩

/-- A variable that is not defined is reported where it is read, if all keys are texts. -/
theorem lookupIn_undefined (frame : Frame) {context : Dict} {word : String}
    (absent : Dict.named? context word = none) (textual : Dict.IsTextual context) :
    ∃ closest, lookupIn true frame context word = .error (.diagnostic (.undefined
      ⟨word, nameOrUnnamed frame.template, some frame.line, closest,
        frame.snippetOf frame.source⟩)) := by
  -- With texts alone for keys the closest name can be searched, whatever it is.
  obtain ⟨names, texts⟩ := textual.nameTexts
  refine ⟨closest? word names, ?_⟩
  simp only [lookupIn, if_true, lookupStrict, absent, undefinedIn, undefinedVariable, texts]
  rfl

/-- A variable that is not defined is a mishap, if some key is no text. -/
theorem lookupIn_unmeasured (frame : Frame) {context : Dict} {word : String}
    (absent : Dict.named? context word = none) (mixed : ¬Dict.IsTextual context) :
    ∃ kind, lookupIn true frame context word = .error (.mishap (.unmeasured kind)) := by
  -- The search for the closest name measures every key, and one that is no text has no length.
  obtain ⟨kind, texts⟩ := nameTexts_mixed mixed
  exact ⟨kind, by
    simp only [lookupIn, if_true, lookupStrict, absent, undefinedIn, undefinedVariable, texts]⟩

/-- What is reported as undefined is not defined, among keys that are texts. -/
theorem undefined_of_lookupIn {strict : Bool} {frame : Frame} {context : Dict} {word : String}
    {fault : UndefinedFault}
    (missed : lookupIn strict frame context word = .error (.diagnostic (.undefined fault))) :
    strict = true ∧ Dict.named? context word = none ∧ Dict.IsTextual context ∧
      fault.name = word := by
  -- Of the cases of a lookup only one reports an undefined name: the mode is strict, the name is
  -- missing and every key is a text.
  cases strict with
  | false => cases missed
  | true =>
    cases found : Dict.named? context word with
    | some value => simp [lookupIn, lookupStrict, found] at missed
    | none =>
      by_cases textual : Dict.IsTextual context
      · obtain ⟨closest, reported⟩ := lookupIn_undefined frame found textual
        rw [reported] at missed
        cases missed
        exact ⟨rfl, rfl, textual, rfl⟩
      · obtain ⟨kind, mishap⟩ := lookupIn_unmeasured frame found textual
        rw [mishap] at missed
        cases missed

namespace Activation

section

variable {environment : Environment} {active : Activation} {node : Node} {word : String}

/-- The context of a component has only texts as keys just if its data has, and the context of its
caller too unless that is cut off. -/
theorem effect_textual {component : Script} {inner : Dict}
    (opened : active.effect environment node = .ok (.opens component inner)) :
    ∃ position name variant data only pairs,
      node = .component position name variant data only ∧
      DataPairs (active.read position.line) data pairs ∧
      (Dict.IsTextual inner ↔ Dict.IsTextual pairs ∧
        (active.script.site.cutsOff only = true ∨ Dict.IsTextual active.context)) := by
  obtain ⟨position, name, variant, data, only, rfl, invoked⟩ := effect_opens opened
  obtain ⟨called, base, styling, _, _, merged, styled, same⟩ := invocation_eq_ok.1 invoked
  obtain ⟨added, found, based⟩ := bind_eq_ok.1 merged
  cases based
  obtain ⟨pairs, evaluated, rfl⟩ := dataEntries_pairs styled found
  refine ⟨position, name, variant, data, only, pairs, rfl, evaluated, ?_⟩
  have laid : inner = componentContext called (styling.named called) (Dict.merge
      (if active.script.site.cutsOff only then [] else Dict.ofEntries active.context)
      (Dict.ofEntries pairs)) := same
  have none : Dict.IsTextual [] := by simp [Dict.IsTextual]
  have copied (entries : Dict) : Dict.IsTextual (Dict.ofEntries entries) ↔
      Dict.IsTextual entries := by
    rw [Dict.ofEntries, Dict.isTextual_merge]
    exact and_iff_right none
  -- The computed fields stand under texts, so that they decide nothing.
  have fields := namedEntries_textual (componentFields called (styling.named called))
  rw [laid, componentContext, Dict.isTextual_merge, Dict.isTextual_merge, copied]
  cases cut : active.script.site.cutsOff only with
  | true => simp [fields, none]
  | false => simp [fields, copied, and_comm]

/-- A step fails with the variable that its node comes to. -/
theorem Asks.step_eq_error {failure : Failure} (asks : active.Asks environment word node)
    (strict : active.script.strict = true)
    (missed : lookupIn true (active.frame.atLine node.line) active.context word =
      .error failure) : active.step environment node = .error failure := by
  -- The node asks for the word before it does anything else that could fail.
  have failed : active.read node.line word = .error failure := by
    rw [read, strict]
    exact missed
  exact Activation.step_eq_error.2 (.inl (asks.effect_eq_error failed))

/-- A step that ends in the report of an undefined variable has come to it, in a context all of
whose keys are texts, unless the host program has raised the report. -/
theorem step_missed {allowed : Fault → Prop} {own : Failure} {fault : UndefinedFault}
    (only : active.RaisesOnly environment allowed) (reached : active.Reaches environment node)
    (failed : active.step environment node = .error own)
    (ended : own.report? = some (.undefined fault)) :
    (active.Asks environment fault.name node ∧ active.script.strict = true ∧
      Dict.named? active.context fault.name = none ∧ Dict.IsTextual active.context) ∨
    ∃ raised, allowed raised ∧ raised.report? = some (.undefined fault) := by
  rcases step_eq_error.1 failed with effect | ⟨component, inner, _, _, rfl⟩
  · cases effect_failed only reached.within effect with
    | missed asks missed =>
      -- A variable that is missed is reported by itself, and says its name.
      rw [(lookupIn_arises missed).report ended] at missed
      obtain ⟨strict, absent, textual, rfl⟩ := undefined_of_lookupIn missed
      exact .inl ⟨asks, strict, absent, textual⟩
    | early early =>
      rw [(early.arises active.frame).report ended] at early
      exact early.elim
    | raised raised =>
      obtain ⟨fault, permitted, rfl⟩ := raised
      exact .inr ⟨fault, permitted, fault.failure_report ▸ ended⟩
  · cases ended

end

end Activation

/-- A render that comes to a variable that is not defined says so, under the name of the variable
and at its place, as long as all keys of the context are texts; with any other key in the context it
fails in another way. A key that is no text comes with the globals, with the argument of the render,
or with the data of a component, and is passed on to all components that are not cut off. -/
theorem render_undefined (maker environment : Environment) {source : String}
    {name file : Option String} {template : Template}
    (made : maker.ofSource source name file = .ok template) {arguments : List Value}
    {keywords context : Dict} (named : checkKeywords keywords = .ok ())
    (rooted : rootContext environment.globals arguments keywords = .ok context) :
    ∃ tree, readTemplate name file source = .ok tree ∧
    let root := environment.root (maker.scriptOf tree name file (some source)) context
    let outcome := template.render (some environment) arguments keywords
    (∀ callers last node word, root.Enters environment callers last →
      last.Reaches environment node → last.Asks environment word node →
      last.script.strict = true → Dict.named? last.context word = none →
      (Dict.IsTextual last.context → ∃ closest, outcome = .error (.diagnostic (.undefined
        ⟨word, nameOrUnnamed last.script.site.name, some node.line, closest,
          (nonempty? last.script.source).map fun text =>
            .around text node.line Frame.snippetReach none⟩))) ∧
      (¬Dict.IsTextual last.context → ∃ kind,
        let report := (Failure.mishap (.unmeasured kind)).reportAt last.script node.line callers
          ("object of type '" ++ kind ++ "' has no len()")
        outcome = .error (.diagnostic report) ∧ report.code? = some .runtimeError)) ∧
    -- Nothing else is reported as an undefined variable, unless the host program does so.
    (∀ fault, outcome = .error (.diagnostic (.undefined fault)) →
      (∃ callers last node, root.Enters environment callers last ∧
        last.Reaches environment node ∧ last.Asks environment fault.name node ∧
        last.script.strict = true ∧ Dict.named? last.context fault.name = none ∧
        Dict.IsTextual last.context) ∨
      ∃ raised, environment.Raises context raised ∧ raised.report? = some (.undefined fault)) ∧
    -- The keys of a context are those of its layers.
    (Dict.IsTextual context ↔
      Dict.IsTextual environment.globals ∧ Dict.IsTextual (givenEntries arguments)) ∧
    ∀ callers last node component inner, root.Enters environment callers last →
      last.effect environment node = .ok (.opens component inner) →
      ∃ position called variant data only pairs,
        node = .component position called variant data only ∧
        DataPairs (last.read position.line) data pairs ∧
        (Dict.IsTextual inner ↔ Dict.IsTextual pairs ∧
          (last.script.site.cutsOff only = true ∨ Dict.IsTextual last.context)) := by
  obtain ⟨tree, read, compiled⟩ := ofSource_eq_ok.1 made
  refine ⟨tree, read, ?_⟩
  intro root outcome
  have rendered : outcome = root.text environment := render_eq_text compiled named rooted
  have placed : root.IsPlaced := ⟨rfl, rfl, readTemplate_lines read⟩
  refine ⟨?_, ?_, rootContext_textual named rooted, ?_⟩
  · intro callers last node word entered reached asks strict absent
    obtain ⟨deep, _⟩ := entered.placed placed
    -- What the step fails with leaves the render at the place of the step.
    have reported {own : Failure} {text : String}
        (failed : last.step environment node = .error own) (told : own.message = .ok text) :
        outcome = .error (.diagnostic (own.reportAt last.script node.line callers text)) := by
      rw [rendered, ← placed.leave_told rfl entered reached told, Activation.text_eq_error]
      exact ⟨callers, last, node, own, entered, reached, failed, rfl⟩
    constructor
    · intro textual
      obtain ⟨closest, missed⟩ := lookupIn_undefined (last.frame.atLine node.line) absent textual
      refine ⟨closest, ?_⟩
      rw [← deep.named, ← deep.snippet (deep.line reached)]
      exact reported (asks.step_eq_error strict missed) rfl
    · intro mixed
      obtain ⟨kind, missed⟩ := lookupIn_unmeasured (last.frame.atLine node.line) absent mixed
      exact ⟨kind, reported (asks.step_eq_error strict missed) rfl, rfl⟩
  · intro fault failed
    rw [rendered] at failed
    obtain ⟨callers, last, node, own, entered, reached, stopped, left⟩ :=
      Activation.text_eq_error.1 failed
    exact (Activation.step_missed (entered.raisesOnly (root_raisesOnly read context)) reached
      stopped (leave_undefined left)).imp_left
        fun missed => ⟨callers, last, node, entered, reached, missed⟩
  · intro callers last node component inner entered opened
    exact Activation.effect_textual opened

/-- A component that reads a variable. -/
def noteSource : String :=
  "\x7b\x7b zzz \x7d\x7d"

/-- The read in the component. -/
def noteNode : Node :=
  .output ⟨1, 0⟩ (.name ⟨1, 3⟩ "zzz")

/-- An environment with the component. -/
def noteEnvironment : Environment :=
  { Environment.default with loader := some (.held [("A/a.html", noteSource)]) }

/-- The component as it is loaded. -/
def noteScript : Script :=
  noteEnvironment.scriptOf (.template .start [noteNode]) (some "A/a.html") none (some noteSource)

/-- A page that hands something to the component under a name. -/
def namedPage : String :=
  "\x7b% component 'A' with \x7bof: 'x'\x7d %\x7d"

/-- The invocation in the page. -/
def noteCall : Node :=
  .component ⟨1, 3⟩ (.constant ⟨1, 13⟩ (.text "A")) none
    (some (.hash ⟨1, 22⟩ [.constant ⟨1, 23⟩ (.text "of")] [.constant ⟨1, 27⟩ (.text "x")])) false

/-- What the component is rendered with. -/
def namedInner : Dict :=
  componentContext "A" ⟨[], []⟩ [(.text "of", .text "x")]

/-- A page that hands something to the component under a number. -/
def numberedPage : String :=
  "\x7b% component 'A' with \x7b1: 'x'\x7d %\x7d"

/-- The variable that is missing in the component is reported there. -/
theorem render_undefined_note :
    ∃ template, noteEnvironment.ofSource namedPage none none = .ok template ∧
      ∃ closest, template.render (some noteEnvironment) [] [] =
        .error (.diagnostic (.undefined ⟨"zzz", "A/a.html", some 1, closest,
          some (.around noteSource 1 Frame.snippetReach none)⟩)) := by
  have accepted : (noteEnvironment.ofSource namedPage none none).isOk = true := by
    decide +kernel
  obtain ⟨template, made⟩ := eq_ok_of_isOk accepted
  have page : readTemplate none none namedPage = .ok (.template .start [noteCall]) := by cbv
  obtain ⟨tree, read, missed, _⟩ := render_undefined noteEnvironment noteEnvironment made
    (show checkKeywords [] = .ok () from rfl)
    (show rootContext noteEnvironment.globals [] [] = .ok [] from rfl)
  obtain rfl := Except.ok.inj (page.symm.trans read)
  have loaded : noteEnvironment.script "A/a.html" = .ok noteScript := by
    have inside : readTemplate (some "A/a.html") none noteSource =
        .ok (.template .start [noteNode]) := by cbv
    have compiled : noteScript.compile.isOk = true := by decide +kernel
    obtain ⟨component, compiled⟩ := eq_ok_of_isOk compiled
    exact Environment.script_eq_ok.2 ⟨_, _, component, rfl, inside, rfl, compiled⟩
  let root := noteEnvironment.root
    (noteEnvironment.scriptOf (.template .start [noteCall]) none none (some namedPage)) []
  have summoned : (noteEnvironment.components true).summon root.script.site 1
      (.constant ⟨1, 13⟩ (.text "A")) none "A" = .ok noteScript := mapError_eq_ok.2 loaded
  have opened : root.step noteEnvironment noteCall = .ok (.opens noteScript namedInner) :=
    Activation.step_opens.2 ⟨Activation.effect_component.2 (invocation_eq_ok.2
      ⟨"A", [(.text "of", .text "x")], ⟨[], []⟩, rfl, summoned, rfl, rfl, rfl⟩), by decide⟩
  -- The component is entered at once, and its only node reads the variable.
  have entered : root.Enters noteEnvironment [(root.script, 1)]
      (root.inside 1 noteScript namedInner) :=
    .through ⟨[], [], "", rfl, rfl⟩ opened (.here _)
  have reached : (root.inside 1 noteScript namedInner).Reaches noteEnvironment noteNode :=
    ⟨[], [], "", rfl, rfl⟩
  have textual : Dict.IsTextual namedInner :=
    Dict.isTextual_merge.2 ⟨by simp [Dict.IsTextual], namedEntries_textual _⟩
  obtain ⟨reported, _⟩ := missed _ _ _ "zzz" entered reached (.output (.name _)) rfl rfl
  obtain ⟨closest, failed⟩ := reported textual
  exact ⟨template, made, closest, failed⟩

/-- With a number among the keys, the variable is not reported as undefined. -/
theorem render_undefined_lost :
    (noteEnvironment.ofSource numberedPage none none >>= fun template =>
      template.render (some noteEnvironment) [] []) = .error (.diagnostic (.runtime
        { code := .runtimeError
          message := "object of type 'int' has no len()"
          template := some "A/a.html"
          line := some 1
          suggestion := none
          snippet := some ⟨[(1, noteSource)], 1, none⟩
          stack := [] })) := by
  -- The render is evaluated: the key of the hash is an integer.
  decide +kernel

end Stencil
