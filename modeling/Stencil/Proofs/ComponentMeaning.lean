import Stencil.Proofs.TermMeaning

/-! The terms of a component stand for its template, its context and its text. -/

namespace Stencil

/-- What a procedure asks for, as the surroundings of a tree. -/
def Services.surroundings (services : Services) : Surroundings Template where
  lookup := services.lookup
  load := services.load
  extension := services.extension
  render := services.render

section

variable {services : Services} {scope : Scope} {context : Dict} {site : Site}

/-- A text or null that is written as a value is read again as itself. -/
theorem textOrNone_getD (text : Option String) :
    Value.textOrNone? ((text.map Value.text).getD .null) = some text := by
  -- A missing text is written as null, and nothing else is.
  cases text with
  | none => rfl
  | some words => rfl

/-- All texts are found among values that are texts. -/
theorem textsOf_text (texts : List String) : textsOf (texts.map .text) = texts := by
  -- No value is passed over, since each of them is a text.
  induction texts with
  | nil => rfl
  | cons text texts ih =>
    simp only [textsOf, List.map_cons, List.filterMap_cons] at ih ⊢
    rw [ih]

/-- A field is a literal, or a list of literals, and yields its value. -/
theorem fieldTerm_yields (value : Value) :
    (fieldTerm value).Yields services scope (.ok value) := by
  -- Only a list is made of further terms; any other value is one literal.
  cases value with
  | list items =>
    -- Its items are literals, each known at once.
    have literals : List.Forall₂ (Term.Yields services scope) (items.map .literal)
        (items.map fun item => .ok item) := by
      induction items with
      | nil => exact .nil
      | cons item items ih => exact .cons (literal_yields item) ih
    -- So the list comes to the items as they are.
    have yields := list_yields literals
    rw [collect_ok (fun item => item)] at yields
    simpa [fieldTerm] using yields
  | _ => exact literal_yields _

/-- The names of fields yield themselves. -/
theorem names_yield (fields : List (String × Value)) :
    List.Forall₂ (Term.Yields services scope) (fields.map (.text ·.1))
      (fields.map fun field => .ok (.text field.1)) := by
  -- The names are the texts of the fields, in the same order.
  induction fields with
  | nil => exact .nil
  | cons field fields ih => exact .cons (text_yields field.1) ih

/-- The terms of fields yield their values. -/
theorem fieldTerms_yield (fields : List (String × Value)) :
    List.Forall₂ (Term.Yields services scope) (fields.map (fieldTerm ·.2))
      (fields.map fun field => .ok field.2) := by
  -- Induction on the fields: each is a constant.
  induction fields with
  | nil => exact .nil
  | cons field fields ih => exact .cons (fieldTerm_yields field.2) ih

/-- Names and values that are known at once come to the entries of a dictionary. -/
theorem collectEntries_known (early : Nat) (fields : List (String × Value)) :
    collectEntries early (fields.map fun field => .ok (.text field.1))
      (fields.map fun field => .ok field.2) = .ok (namedEntries fields) := by
  -- The count of early keys falls with each field, so it has to stay free.
  induction fields generalizing early with
  | nil => rfl
  | cons field fields ih =>
    -- A text can always be a key, be it early or not.
    have early : checkEarly early (.text field.1) = .ok () := by
      simp [checkEarly, checkKey, Value.isKey]
    simp [collectEntries, early, ih, namedEntries]

/-- Named values can always be stored. -/
theorem storeEntries_named (base : Dict) (fields : List (String × Value)) :
    storeEntries base (namedEntries fields) = .ok (Dict.merge base (namedEntries fields)) := by
  -- The keys are texts, so the check of the keys passes.
  have keys : checkKeys (namedEntries fields) = .ok () := by
    induction fields with
    | nil => rfl
    | cons field fields ih =>
      simpa [namedEntries, checkKeys, checkKey, Value.isKey] using ih
  simp [storeEntries, keys]

/-- Terms one after another do what they do apart. -/
theorem actions_append (first others : List Term) :
    actions services (first ++ others) = actions services first ++ actions services others := by
  -- Induction on the first terms.
  induction first with
  | nil => rfl
  | cons term first ih => simp [actions, ih]

/-- The caller's context is spread first, unless it is cut off. -/
theorem runSpreads_caller (cutOff : Bool) (others : List Action) (pieces : Pieces)
    (bound : Bindings.datum? scope.bindings .context = some (.value (.dict context))) :
    runSpreads [] (actions services (if cutOff then [] else [.slot .context]) ++ others) scope
        pieces =
      runSpreads (if cutOff then [] else Dict.ofEntries context) others scope pieces := by
  -- The context is either not spread at all, or found in its slot and spread as a copy.
  cases cutOff with
  | true => simp [actions]
  | false => simp [actions, runSpreads, slot_stands bound _, Datum.asDict, Dict.ofEntries]

/-- The term of the merge base yields the data over the context of the caller. -/
theorem baseTerm_yields {data : Option Node} {only : Bool} {base : Term}
    (bound : Bindings.datum? scope.bindings .context = some (.value (.dict context)))
    (compiled : site.baseTerm data only = .ok base) :
    base.Yields services scope
      ((site.mergeBase (services.lookup scope.frame context) context data only).map .dict) := by
  simp only [Site.baseTerm, bind_eq_ok] at compiled
  obtain ⟨terms, found, same⟩ := compiled
  cases same
  intro pieces
  simp only [Term.action, actions_append, runSpreads_caller _ _ _ bound]
  -- Without data there is nothing left but the context of the caller.
  cases data with
  | none =>
    cases found
    rfl
  | some data =>
    -- The data is one term, which has to come to a dictionary.
    obtain ⟨term, compiled, rfl⟩ := map_eq_ok.1 found
    simp only [actions, runSpreads, Site.mergeBase, dataEntries, term_yields bound compiled _]
    -- What the data come to is spread last, if it is a dictionary.
    cases data.value (services.lookup scope.frame context) with
    | error failure => rfl
    | ok value =>
      simp only [map_ok, ok_bind]
      cases (Datum.value value).asDict <;> rfl

/-- What lies over the caller's context has no key twice. -/
theorem Site.mergeBase_distinct {read : String → Except Failure Value} {data : Option Node}
    {only : Bool} {base : Dict} (merged : site.mergeBase read context data only = .ok base) :
    Dict.Distinct base := by
  simp only [Site.mergeBase, bind_eq_ok] at merged
  obtain ⟨entries, _, same⟩ := merged
  cases same
  -- Each merge keeps what it starts from free of repeated keys.
  have empty : Dict.Distinct [] := .nil
  split
  · exact empty.merge entries
  · exact (empty.merge context).merge entries

/-- The fields of a known component are laid over its base in one dictionary. -/
theorem fieldsTerm_yields {base : Term} {outcome : Except Failure Dict}
    (yields : base.Yields services scope (outcome.map .dict))
    (distinct : ∀ entries, outcome = .ok entries → Dict.Distinct entries)
    (word : String) (styling : Styling) :
    (Term.dict [base] ((componentFields word styling).map (.text ·.1))
        ((componentFields word styling).map (fieldTerm ·.2))).Yields services scope
      ((outcome.map (componentContext word styling)).map .dict) := by
  intro pieces
  simp only [Term.action, actions, runSpreads, yields pieces,
    runPairs_yields (names_yield _) (fieldTerms_yield _), collectEntries_known]
  -- The base is run before the fields, which cannot fail.
  cases outcome with
  | error failure => rfl
  | ok entries =>
    -- The base is copied once more, which changes nothing.
    have copied : Dict.merge [] entries = entries := Dict.ofEntries_self (distinct entries rfl)
    simp [Datum.asDict, copied, storeEntries_named, componentContext]

/-- A tuple of literal texts stands for these texts. -/
theorem texts_stand (texts : List String) :
    (Term.tuple (texts.map .text)).Stands services scope (.ok (.tuple (texts.map .text))) := by
  -- A tuple of texts is known as soon as its parts are.
  have stands := @tuple_stands services scope _ _ (texts_yield texts)
  rwa [collect_ok] at stands

/-- The terms that say where a component is invoked yield the caller and the line. -/
theorem place_yields (line : Int) :
    List.Forall₂ (Term.Yields services scope) (site.place line)
      [.ok ((site.caller.map Value.text).getD .null), .ok (.int line)] :=
  -- The caller and the line are literals.
  .cons (literal_yields _) (.cons (literal_yields _) .nil)

/-- A known component's template is loaded under its path. -/
theorem loadTemplate_stands (site : Site) (path : String) (line : Int) :
    (Term.call (.helper .loadTemplate) (.text path :: site.place line)).Stands services scope
      ((loadKnown services path site.caller line).map .template) := by
  -- The path, the caller and the line are known, so the call is the load.
  refine call_stands (fun _ => (loadKnown services path site.caller line).map .template)
    (helper_stands _) (stands_of_yields (.cons (text_yields path) (place_yields line))) ?_
  intro data pieces collected
  -- The helper reads the caller back from the value it was written as.
  cases collected
  simp only [Helper.apply, textOrNone_getD]
  cases loadKnown services path site.caller line <;> rfl

/-- A component that is named only in a render is loaded under the path of that name. -/
theorem loadComponent_stands (site : Site) {word : String} (variant : Option String) (line : Int)
    (named : Bindings.datum? scope.bindings .componentName = some (.value (.text word))) :
    (Term.call (.helper .loadComponent)
        (.slot .componentName :: .textOrNull variant :: site.place line)).Stands services scope
      ((loadDeferred services word variant site.caller line).map .template) := by
  -- The name is read from its slot; the variant and the place are known.
  refine call_stands (fun _ => (loadDeferred services word variant site.caller line).map .template)
    (helper_stands _)
    (.cons (slot_stands named) (stands_of_yields (.cons (literal_yields _) (place_yields line)))) ?_
  intro data pieces collected
  -- The helper reads the variant and the caller back as texts.
  cases collected
  simp only [Helper.apply, textOrNone_getD]
  cases loadDeferred services word variant site.caller line <;> rfl

/-- The context of such a component is put together from its name, its styling and its base. -/
theorem buildContext_yields {word : String} (styling : Styling) {base : Term}
    {outcome : Except Failure Dict}
    (named : Bindings.datum? scope.bindings .componentName = some (.value (.text word)))
    (yields : base.Yields services scope (outcome.map .dict)) :
    (Term.call (.helper .buildContext)
        [.slot .componentName, .tuple (styling.classes.map .text),
         .tuple (styling.modifiers.map .text), base]).Yields services scope
      ((outcome.map (componentContext word (styling.named word))).map .dict) := by
  -- Only the base can fail; the name and the styling are known texts.
  have called := call_stands
    (fun _ => outcome.map fun entries =>
      Datum.value (.dict (componentContext word (styling.named word) entries)))
    (helper_stands .buildContext)
    (.cons (slot_stands named) (.cons (texts_stand styling.classes)
      (.cons (texts_stand styling.modifiers) (.cons yields .nil)))) ?_
  · cases outcome <;> exact called
  · intro data pieces collected
    -- What the helper is given is the name, both lists of texts and the entries.
    cases outcome with
    | error failure => cases collected
    | ok entries =>
      cases collected
      simp [Helper.apply, textsOf_text]

/-- A loaded component is rendered in its context. -/
theorem renderComponent_yields {template contextTerm : Term} {loaded : Except Failure Template}
    {outcome : Except Failure Dict}
    (stands : template.Stands services scope (loaded.map .template))
    (yields : contextTerm.Yields services scope (outcome.map .dict)) :
    (Term.call (.helper .renderComponent) [template, contextTerm]).Yields services scope
      ((do
        let template ← loaded
        let context ← outcome
        services.render scope.frame template context).map .text) := by
  -- The template is loaded first, then the context is put together, then both are rendered.
  have called := call_stands
    (fun _ => (do
      let template ← loaded
      let context ← outcome
      services.render scope.frame template context).map fun text => Datum.value (.text text))
    (helper_stands .renderComponent) (.cons stands (.cons yields .nil)) ?_
  · -- A call that stands for a datum yields it too, since the render gives a text.
    cases loaded with
    | error failure => exact called
    | ok template =>
      cases outcome with
      | error failure => exact called
      | ok entries =>
        intro pieces
        rw [called pieces]
        simp only [ok_bind]
        cases services.render scope.frame template entries <;> rfl
  · -- The helper is reached only with a template and a context.
    intro data pieces collected
    cases loaded with
    | error failure => cases collected
    | ok template =>
      cases outcome with
      | error failure => cases collected
      | ok entries =>
        cases collected
        simp only [Helper.apply, ok_bind]
        cases services.render scope.frame template entries <;> rfl

end

end Stencil
