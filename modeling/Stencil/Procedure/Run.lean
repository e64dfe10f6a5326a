import Stencil.Component.Context
import Stencil.Frame
import Stencil.Dict
import Stencil.Template

/-! How procedures are carried out. -/

namespace Stencil

/-- What a term of a running procedure stands for. -/
inductive Datum
  | value (value : Value)
  | tuple (items : List Value)
  | helper (helper : Helper)
  | pieces
  | template (template : Template)

/-- What a running procedure asks of its surroundings. -/
structure Services where
  lookup : Frame → Dict → String → Except Failure Value
  load : String → Except Failure Template
  extension : String
  render : Frame → Template → Dict → Except Failure String

/-- What a procedure has bound to its slots. -/
abbrev Bindings := List (Slot × Datum)

/-- The datum bound to a slot. -/
def Bindings.datum? : Bindings → Slot → Option Datum
  | [], _ => none
  | (known, datum) :: others, slot =>
    if known = slot then some datum else Bindings.datum? others slot

/-- The bindings with a datum under a slot. -/
def Bindings.bind : Bindings → Slot → Datum → Bindings
  | [], slot, datum => [(slot, datum)]
  | (known, old) :: others, slot, datum =>
    -- A slot is bound in place, so that each stands in the bindings once.
    if known = slot then (known, datum) :: others
    else (known, old) :: Bindings.bind others slot datum

/-- Where a term is evaluated. -/
structure Scope where
  frame : Frame
  bindings : Bindings

/-- Pieces of text, the last one first. -/
abbrev Pieces := List String

/-- What a term does: it may add to the pieces, and it stands for a datum unless it fails. -/
abbrev Action := Scope → Pieces → Except Failure (Datum × Pieces)

/-- The failure of a datum that cannot be used as a procedure wants. -/
def unusable : Failure :=
  .mishap .notCallable

/-- What a failure says, if it says that a template is missing. -/
def Failure.missing? : Failure → Option String
  | .diagnostic (.notFound message) => some message
  -- Only a loader of the host program would report a component here.
  | .diagnostic (.unresolvable fault) => some fault.report
  | _ => none

/-- A missing template, as it is reported where a component names it. -/
def Failure.missedKnown (caller : Option String) (line : Int) (failure : Failure) : Failure :=
  -- Only a template that is missing is reported at its component.
  match failure.missing? with
  | some message =>
    .diagnostic (.notFound (message ++ " (invoked from " ++ location caller (some line) ++ ")"))
  | none => failure

/-- A missing template, as it is reported when its name came up only in a render. -/
def Failure.missedDeferred (fault : UnresolvableFault) (failure : Failure) : Failure :=
  if failure.missing?.isSome then .diagnostic (.unresolvable fault) else failure

/-- A template that a component names, or a report of where it is missed. -/
def loadKnown (services : Services) (path : String) (caller : Option String) (line : Int) :
    Except Failure Template :=
  (services.load path).mapError (Failure.missedKnown caller line)

/-- A template that a component names when it is rendered, or a report of where it is missed. -/
def loadDeferred (services : Services) (name : String) (variant caller : Option String)
    (line : Int) : Except Failure Template :=
  -- The extension is that of the environment that renders.
  let path := componentPath name variant services.extension
  (services.load path).mapError (Failure.missedDeferred ⟨name, path, caller, some line⟩)

/-- A text or null as an optional text. -/
def Value.textOrNone? : Value → Option (Option String)
  | .null => some none
  | .text words => some (some words)
  | _ => none

/-- The texts among values. -/
def textsOf (values : List Value) : List String :=
  values.filterMap fun value => match value with
    | .text text => some text
    | _ => none

/-- What a helper answers to its arguments. -/
def Helper.apply (services : Services) (frame : Frame) (pieces : Pieces) :
    Helper → List Datum → Except Failure (Datum × Pieces)
  | .textOf, [.value value] => do
    let text ← ofFault value.output
    .ok (.value (.text text), pieces)
  -- Which context a variable is read from is up to the procedure.
  | .lookup, [.value (.dict context), .value (.text name)] => do
    let value ← services.lookup frame context name
    .ok (.value value, pieces)
  | .member, [.value object, .value (.text name)] => do
    let value ← ofFault (object.member name)
    .ok (.value value, pieces)
  | .loadTemplate, [.value (.text path), .value caller, .value (.int line)] =>
    match caller.textOrNone? with
    | some caller => do
      let template ← loadKnown services path caller line
      .ok (.template template, pieces)
    | none => .error unusable
  | .loadComponent, [.value (.text name), .value variant, .value caller, .value (.int line)] =>
    match variant.textOrNone?, caller.textOrNone? with
    | some variant, some caller => do
      let template ← loadDeferred services name variant caller line
      .ok (.template template, pieces)
    | _, _ => .error unusable
  -- The name leads the modifiers only now that it is known.
  | .buildContext, [.value (.text name), .tuple classes, .tuple modifiers, .value (.dict base)] =>
    let styling := Styling.named ⟨textsOf classes, textsOf modifiers⟩ name
    .ok (.value (.dict (componentContext name styling base)), pieces)
  | .renderComponent, [.template template, .value (.dict context)] => do
    let text ← services.render frame template context
    .ok (.value (.text text), pieces)
  -- Appending gives nothing back that a procedure would use.
  | .append, [.value (.text text)] => .ok (.value .null, text :: pieces)
  | .join between, [.pieces] => .ok (.value (.text (between.intercalate pieces.reverse)), pieces)
  -- No procedure that is made of a tree comes here.
  | _, _ => .error unusable

/-- What a datum answers to arguments. -/
def Datum.apply (services : Services) (frame : Frame) (pieces : Pieces) (arguments : List Datum) :
    Datum → Except Failure (Datum × Pieces)
  | .helper job => job.apply services frame pieces arguments
  | _ => .error unusable

/-- The helper that a method of a datum is. -/
def Datum.method : Method → Datum → Except Failure Datum
  | .append, .pieces => .ok (.helper .append)
  | .join, .value (.text between) => .ok (.helper (.join between))
  | _, _ => .error unusable

/-- The value that a datum is. -/
def Datum.asValue : Datum → Except Failure Value
  | .value meaning => .ok meaning
  | _ => .error unusable

/-- The dictionary that a datum is. -/
def Datum.asDict : Datum → Except Failure Dict
  | .value (.dict entries) => .ok entries
  | _ => .error unusable

/-- The data of actions, carried out in order. -/
def runAll : List Action → Scope → Pieces → Except Failure (List Datum × Pieces)
  | [], _, pieces => .ok ([], pieces)
  | action :: actions, scope, pieces => do
    let (datum, pieces) ← action scope pieces
    let (data, pieces) ← runAll actions scope pieces
    .ok (datum :: data, pieces)

/-- The values that data are. -/
def valuesOf : List Datum → Except Failure (List Value)
  | [] => .ok []
  | datum :: data => do
    let value ← datum.asValue
    let values ← valuesOf data
    .ok (value :: values)

/-- The values of actions, carried out in order. -/
def runValues (actions : List Action) (scope : Scope) (pieces : Pieces) :
    Except Failure (List Value × Pieces) := do
  let (data, pieces) ← runAll actions scope pieces
  let values ← valuesOf data
  .ok (values, pieces)

/-- A value has to be able to stand as a key. -/
def checkKey (key : Value) : Except Failure Unit :=
  if key.isKey then .ok () else .error (.mishap (.badKey key.kindName))

/-- How many entries of a dictionary are stored before later ones are evaluated. -/
def storedEarly (count : Nat) : Nat :=
  -- Long dictionaries are stored in runs of seventeen entries, and a short rest all at once.
  if count % 17 = 16 then count else count - count % 17

/-- A key that is stored early is checked before later entries are evaluated. -/
def checkEarly (early : Nat) (key : Value) : Except Failure Unit :=
  if 0 < early then checkKey key else .ok ()

/-- The entries of a dictionary, each key before its value. -/
def runPairs (early : Nat) : List Action → List Action → Scope → Pieces →
    Except Failure (List (Value × Value) × Pieces)
  | key :: keys, value :: values, scope, pieces => do
    let (key, pieces) ← key scope pieces
    let key ← key.asValue
    let (value, pieces) ← value scope pieces
    let value ← value.asValue
    -- A value is evaluated before its key is checked.
    checkEarly early key
    let (entries, pieces) ← runPairs (early - 1) keys values scope pieces
    .ok ((key, value) :: entries, pieces)
  | _, _, _, pieces => .ok ([], pieces)

/-- All keys of entries have to be able to stand as keys. -/
def checkKeys : List (Value × Value) → Except Failure Unit
  | [] => .ok ()
  | (key, _) :: entries => do
    checkKey key
    checkKeys entries

/-- Entries are laid over a dictionary, if their keys can be keys. -/
def storeEntries (base : Dict) (entries : List (Value × Value)) : Except Failure Dict := do
  checkKeys entries
  .ok (Dict.merge base entries)

/-- The dictionaries of actions laid over one another in order. -/
def runSpreads (base : Dict) : List Action → Scope → Pieces → Except Failure (Dict × Pieces)
  | [], _, pieces => .ok (base, pieces)
  | action :: actions, scope, pieces => do
    let (datum, pieces) ← action scope pieces
    let entries ← datum.asDict
    -- Later entries win, but keep the place of the earlier ones.
    runSpreads (Dict.merge base entries) actions scope pieces

mutual

/-- What a term does. -/
def Term.action (services : Services) : Term → Action
  | .literal value => fun _ pieces => .ok (.value value, pieces)
  | .slot slot => fun scope pieces =>
    match Bindings.datum? scope.bindings slot with
    | some datum => .ok (datum, pieces)
    | none => .error unusable
  | .helper helper => fun _ pieces => .ok (.helper helper, pieces)
  | .noPieces => fun _ _ => .ok (.pieces, [])
  | .method object method => fun scope pieces => do
    let (object, pieces) ← object.action services scope pieces
    let found ← object.method method
    .ok (found, pieces)
  | .call function arguments => fun scope pieces => do
    -- What is called is found before its arguments are.
    let (function, pieces) ← function.action services scope pieces
    let (arguments, pieces) ← runAll (actions services arguments) scope pieces
    function.apply services scope.frame pieces arguments
  | .list items => fun scope pieces => do
    let (values, pieces) ← runValues (actions services items) scope pieces
    .ok (.value (.list values), pieces)
  | .tuple items => fun scope pieces => do
    let (values, pieces) ← runValues (actions services items) scope pieces
    .ok (.tuple values, pieces)
  | .dict spreads keys values => fun scope pieces => do
    -- What is spread stands before all of the pairs.
    let (base, pieces) ← runSpreads [] (actions services spreads) scope pieces
    let (entries, pieces) ←
      runPairs (storedEarly keys.length) (actions services keys) (actions services values) scope
        pieces
    let entries ← storeEntries base entries
    .ok (.value (.dict entries), pieces)

/-- What terms do. -/
def actions (services : Services) : List Term → List Action
  | [] => []
  | term :: terms => term.action services :: actions services terms

end

/-- A procedure that is being carried out. -/
structure Run where
  frame : Frame
  bindings : Bindings
  pieces : Pieces

/-- The datum that a term stands for while a procedure runs; a failure keeps the frame. -/
def Run.evaluate (services : Services) (run : Run) (term : Term) :
    Except (Failure × Frame) (Datum × Run) :=
  match term.action services ⟨run.frame, run.bindings⟩ run.pieces with
  | .ok (datum, pieces) => .ok (datum, { run with pieces := pieces })
  -- The frame tells the line that was marked last.
  | .error failure => .error (failure, run.frame)

/-- The text that steps give in the end. -/
def runSteps (services : Services) : Procedure → Run → Except (Failure × Frame) String
  -- A procedure ends by giving its text, so it never runs out of steps.
  | [], run => .error (unusable, run.frame)
  | .assign slot term :: steps, run => do
    let (datum, run) ← run.evaluate services term
    runSteps services steps { run with bindings := Bindings.bind run.bindings slot datum }
  | .markLine line :: steps, run =>
    runSteps services steps { run with frame := run.frame.atLine line }
  | .run term :: steps, run => do
    let (_, run) ← run.evaluate services term
    runSteps services steps run
  | .give term :: _, run => do
    let (datum, run) ← run.evaluate services term
    match datum with
    | .value (.text text) => .ok text
    | _ => .error (unusable, run.frame)

/-- The text of a template in a context; a mishap is located in the template on its way out. -/
def Template.run (template : Template) (services : Services) (frame : Frame) (context : Dict) :
    Except Failure String :=
  match runSteps services template.procedure ⟨frame, [(.context, .value (.dict context))], []⟩ with
  | .ok text => .ok text
  | .error (failure, frame) => .error (frame.locate template.source failure)

end Stencil
