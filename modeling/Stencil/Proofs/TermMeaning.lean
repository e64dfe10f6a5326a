import Stencil.Proofs.Interpretation
import Stencil.Proofs.Outcome
import Mathlib.Data.List.Forall2

/-! The terms that expressions are turned into stand for the values of the expressions. -/

namespace Stencil

/-- A term stands for an outcome when that is all it comes to, and it leaves the pieces alone. -/
def Term.Stands (services : Services) (scope : Scope) (term : Term)
    (outcome : Except Failure Datum) : Prop :=
  -- The pieces come out as they went in, whatever they are.
  ∀ pieces, term.action services scope pieces = outcome.map fun datum => (datum, pieces)

/-- A term yields the outcome of a value when it stands for that value as a datum. -/
def Term.Yields (services : Services) (scope : Scope) (term : Term)
    (outcome : Except Failure Value) : Prop :=
  term.Stands services scope (outcome.map .value)

section

variable {services : Services} {scope : Scope}

/-- A literal yields its value. -/
theorem literal_yields (value : Value) : (Term.literal value).Yields services scope (.ok value) :=
  -- A literal reads nothing and never fails, whatever the pieces are.
  fun _ => rfl

/-- A text yields itself. -/
theorem text_yields (text : String) :
    (Term.text text).Yields services scope (.ok (.text text)) :=
  literal_yields _

/-- A slot stands for what is bound to it. -/
theorem slot_stands {slot : Slot} {datum : Datum}
    (bound : Bindings.datum? scope.bindings slot = some datum) :
    (Term.slot slot).Stands services scope (.ok datum) := by
  -- The slot is read from the bindings, where the hypothesis finds the datum.
  intro pieces
  simp [Term.action, bound]

/-- A helper stands for itself. -/
theorem helper_stands (job : Helper) :
    (Term.helper job).Stands services scope (.ok (.helper job)) :=
  fun _ => rfl

/-- Terms that stand for outcomes come to the outcomes in order. -/
theorem runAll_stands {terms : List Term} {outcomes : List (Except Failure Datum)}
    (stand : List.Forall₂ (Term.Stands services scope) terms outcomes) (pieces : Pieces) :
    runAll (actions services terms) scope pieces =
      (collect outcomes).map fun data => (data, pieces) := by
  -- The pieces pass from each term to the next without a change.
  induction stand with
  | nil => rfl
  | @cons term outcome terms outcomes head _ ih =>
    simp only [actions, runAll, collect, head pieces]
    -- The first failure ends both sides in the same place.
    cases outcome with
    | error failure => rfl
    | ok datum =>
      simp only [map_ok, ok_bind, ih]
      cases collect outcomes <;> rfl

/-- Data that are values all the way are read as these values. -/
theorem valuesOf_value (values : List Value) :
    valuesOf (values.map Datum.value) = .ok values := by
  -- Each datum is a value, so none of them refuses to be read as one.
  induction values with
  | nil => rfl
  | cons value values ih => simp [valuesOf, Datum.asValue, ih]

/-- Values come in the same order as the data that they are. -/
theorem collect_value (outcomes : List (Except Failure Value)) :
    collect (outcomes.map (Except.map Datum.value)) =
      (collect outcomes).map (List.map Datum.value) := by
  -- Both sides stop at the same outcome, since a datum fails only where its value does.
  induction outcomes with
  | nil => rfl
  | cons outcome outcomes ih =>
    simp only [List.map_cons, collect, ih]
    cases outcome with
    | error failure => rfl
    | ok value =>
      simp only [map_ok, ok_bind]
      cases collect outcomes <;> rfl

/-- Terms that yield outcomes stand for the same outcomes as data. -/
theorem stands_of_yields {terms : List Term} {outcomes : List (Except Failure Value)}
    (yields : List.Forall₂ (Term.Yields services scope) terms outcomes) :
    List.Forall₂ (Term.Stands services scope) terms (outcomes.map (Except.map Datum.value)) :=
  -- To yield a value is to stand for it as a datum, one term at a time.
  List.forall₂_map_right_iff.2 yields

/-- Terms that yield outcomes come to their values in order. -/
theorem runValues_yields {terms : List Term} {outcomes : List (Except Failure Value)}
    (yields : List.Forall₂ (Term.Yields services scope) terms outcomes) (pieces : Pieces) :
    runValues (actions services terms) scope pieces =
      (collect outcomes).map fun values => (values, pieces) := by
  -- The terms are run as data first, and the data are read as values afterwards.
  simp only [runValues, runAll_stands (stands_of_yields yields), collect_value]
  cases collect outcomes with
  | error failure => rfl
  | ok values => simp [valuesOf_value]

/-- Pairs of terms come to the entries of a dictionary in the same order. -/
theorem runPairs_yields {keys values : List Term}
    {keyOutcomes valueOutcomes : List (Except Failure Value)}
    (keysYield : List.Forall₂ (Term.Yields services scope) keys keyOutcomes)
    (valuesYield : List.Forall₂ (Term.Yields services scope) values valueOutcomes)
    (early : Nat) (pieces : Pieces) :
    runPairs early (actions services keys) (actions services values) scope pieces =
      (collectEntries early keyOutcomes valueOutcomes).map fun entries => (entries, pieces) := by
  -- Both sides take one key and one value at a time, and stop at the shorter list.
  induction keysYield generalizing values valueOutcomes early with
  | nil => cases valuesYield <;> rfl
  | @cons keyTerm key keys keyOutcomes keyYields _ ih =>
    cases valuesYield with
    | nil => rfl
    | @cons valueTerm value values valueOutcomes valueYields valuesYield =>
      simp only [actions, runPairs, collectEntries, keyYields pieces]
      -- A key that fails stops the pair before its value is asked for.
      cases key with
      | error failure => rfl
      | ok key =>
        simp only [map_ok, ok_bind, Datum.asValue, valueYields pieces]
        -- A value that fails stops it before the key is checked.
        cases value with
        | error failure => rfl
        | ok value =>
          simp only [map_ok, ok_bind, ih valuesYield]
          -- Only now may the key itself be refused, and then the other pairs follow.
          cases checkEarly early key with
          | error failure => rfl
          | ok _ => cases collectEntries (early - 1) keyOutcomes valueOutcomes <;> rfl

/-- A call of a helper stands for what the helper answers to the arguments. -/
theorem call_stands {function : Term} {job : Helper} {arguments : List Term}
    {outcomes : List (Except Failure Datum)} (answer : List Datum → Except Failure Datum)
    (known : function.Stands services scope (.ok (.helper job)))
    (stand : List.Forall₂ (Term.Stands services scope) arguments outcomes)
    (answers : ∀ data pieces, collect outcomes = .ok data →
      job.apply services scope.frame pieces data =
        (answer data).map fun datum => (datum, pieces)) :
    (Term.call function arguments).Stands services scope (collect outcomes >>= answer) := by
  intro pieces
  simp only [Term.action, known pieces, map_ok, ok_bind, runAll_stands stand]
  -- The helper is applied to the arguments only if all of them have come to something.
  cases collected : collect outcomes with
  | error failure => rfl
  | ok data => exact answers data pieces collected

/-- A list yields its values in order. -/
theorem list_yields {terms : List Term} {outcomes : List (Except Failure Value)}
    (yields : List.Forall₂ (Term.Yields services scope) terms outcomes) :
    (Term.list terms).Yields services scope ((collect outcomes).map .list) := by
  intro pieces
  -- A list adds nothing to its values, so only the values can fail.
  simp only [Term.action, runValues_yields yields]
  cases collect outcomes <;> rfl

/-- A tuple stands for its values in order. -/
theorem tuple_stands {terms : List Term} {outcomes : List (Except Failure Value)}
    (yields : List.Forall₂ (Term.Yields services scope) terms outcomes) :
    (Term.tuple terms).Stands services scope ((collect outcomes).map .tuple) := by
  -- The terms are run in their order, and the first that fails decides.
  intro pieces
  simp only [Term.action, runValues_yields yields]
  cases collect outcomes <;> rfl

/-- Literal texts are known at once. -/
theorem texts_yield (texts : List String) :
    List.Forall₂ (Term.Yields services scope) (texts.map .text)
      (texts.map fun text => .ok (.text text)) := by
  -- Each text is a literal of its own.
  induction texts with
  | nil => exact .nil
  | cons text texts ih => exact .cons (text_yields text) ih

end

/-- What is known at once comes to itself. -/
theorem collect_ok {Meaning Known : Type} (meaning : Known → Meaning) (known : List Known) :
    collect (known.map fun part => .ok (meaning part)) = .ok (known.map meaning) := by
  -- No part fails, so the collection runs to its end.
  induction known with
  | nil => rfl
  | cons part known ih => simp [collect, ih]

/-- There is one value for each expression. -/
theorem Node.values_length (read : String → Except Failure Value) (nodes : List Node) :
    (Node.values read nodes).length = nodes.length := by
  -- Induction on the nodes.
  induction nodes with
  | nil => rfl
  | cons node nodes ih => simp [Node.values, ih]

section

variable {site : Site} {services : Services} {scope : Scope} {context : Dict}

mutual

/-- The term of an expression yields the value of the expression. -/
theorem term_yields
    (bound : Bindings.datum? scope.bindings .context = some (.value (.dict context))) :
    ∀ {node : Node} {term : Term}, site.term node = .ok term →
      term.Yields services scope (node.value (services.lookup scope.frame context))
  | .constant _ value, _, compiled => by
    -- A constant has been made into the literal of its value.
    cases compiled
    exact literal_yields value
  | .name _ word, _, compiled => by
    -- A name has been made into a call of the lookup with the context and the word.
    cases compiled
    refine call_stands (fun _ => (services.lookup scope.frame context word).map .value)
      (helper_stands .lookup) (.cons (slot_stands bound) (.cons (text_yields word) .nil)) ?_
    intro data pieces collected
    -- The two arguments are known, so the call is the lookup itself.
    cases collected
    simp only [Helper.apply]
    cases services.lookup scope.frame context word <;> rfl
  | .member _ object word, _, compiled => by
    simp only [Site.term, bind_eq_ok] at compiled
    -- A member is found in the value that the term of its object yields.
    obtain ⟨inner, found, same⟩ := compiled
    cases same
    intro pieces
    simp only [Term.action, actions, runAll, Term.text, ok_bind, term_yields bound found _,
      Node.value]
    -- Without an object there is nothing to look into.
    cases object.value (services.lookup scope.frame context) with
    | error failure => rfl
    | ok value =>
      simp only [map_ok, ok_bind, Datum.apply, Helper.apply]
      cases ofFault (value.member word) <;> rfl
  | .list _ items, _, compiled => by
    simp only [Site.term, bind_eq_ok] at compiled
    obtain ⟨terms, found, same⟩ := compiled
    cases same
    -- The items are expressions as well.
    exact list_yields (terms_yield bound found)
  | .hash _ keys values, _, compiled => by
    simp only [Site.term, bind_eq_ok] at compiled
    obtain ⟨keyTerms, keysFound, valueTerms, valuesFound, same⟩ := compiled
    cases same
    -- Keys and values are each run in order, and there are as many terms as keys.
    have keysYield := terms_yield bound keysFound
    have count : keyTerms.length = keys.length := by
      rw [keysYield.length_eq, Node.values_length]
    intro pieces
    simp only [Term.action, actions, runSpreads, ok_bind, count, Node.value,
      runPairs_yields keysYield (terms_yield bound valuesFound)]
    -- What the pairs come to still has to be stored.
    cases collectEntries (storedEarly keys.length)
      (Node.values (services.lookup scope.frame context) keys)
      (Node.values (services.lookup scope.frame context) values) with
    | error failure => rfl
    | ok entries =>
      simp only [map_ok, ok_bind]
      cases storeEntries [] entries <;> rfl
  -- No statement has a term, so the remaining nodes cannot have been compiled.
  | .data .., _, compiled => by cases compiled
  | .output .., _, compiled => by cases compiled
  | .component .., _, compiled => by cases compiled
  | .template .., _, compiled => by cases compiled

/-- The terms of expressions yield the values of the expressions. -/
theorem terms_yield
    (bound : Bindings.datum? scope.bindings .context = some (.value (.dict context))) :
    ∀ {nodes : List Node} {terms : List Term}, site.terms nodes = .ok terms →
      List.Forall₂ (Term.Yields services scope) terms
        (Node.values (services.lookup scope.frame context) nodes)
  | [], _, compiled => by
    cases compiled
    exact .nil
  | _ :: _, _, compiled => by
    simp only [Site.terms, bind_eq_ok] at compiled
    -- The first term is in the way of the others, on both sides.
    obtain ⟨term, found, terms, others, same⟩ := compiled
    cases same
    exact .cons (term_yields bound found) (terms_yield bound others)

end

end

end Stencil
