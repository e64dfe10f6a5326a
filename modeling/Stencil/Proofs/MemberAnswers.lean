import Stencil.Dict
import Stencil.Proofs.HostFaults
import Stencil.Proofs.Outcome

/-! What values answer to the names of members, one name after the other. -/

namespace Stencil

/-- Values that have neither attributes nor items: all but dictionaries and objects. -/
def Value.IsMemberless : Value → Prop
  | .dict _ | .object _ _ _ _ _ _ => False
  | _ => True

/-- The kinds of failure with which an object says that it has no such item. -/
def missingItemKinds : List FaultKind :=
  [.missingKey, .wrongKind, .outOfRange]

/-- What an object answers to a name, by what it has as its attribute and as its item: the item
counts only where the attribute is missing, and is null where it is missing, too. A diagnostic of
this library has no kind, so that it never says that something is missing. -/
inductive ObjectAnswers (attr item : Except Fault Value) : Except Fault Value → Prop
  | attr {value : Value} (given : attr = .ok value) : ObjectAnswers attr item (.ok value)
  -- Any other failure of the attribute is passed on, and the item is not asked for.
  | attrFails {fault : Fault} (failed : attr = .error fault)
    (other : fault.kind? ≠ some .missingAttribute) : ObjectAnswers attr item (.error fault)
  | item {lack : Fault} {value : Value} (missing : attr = .error lack)
    (lacks : lack.kind? = some .missingAttribute) (given : item = .ok value) :
    ObjectAnswers attr item (.ok value)
  -- A missing item is null.
  | noItem {lack fault : Fault} (missing : attr = .error lack)
    (lacks : lack.kind? = some .missingAttribute) (failed : item = .error fault)
    (none : ∃ kind ∈ missingItemKinds, fault.kind? = some kind) :
    ObjectAnswers attr item (.ok .null)
  | itemFails {lack fault : Fault} (missing : attr = .error lack)
    (lacks : lack.kind? = some .missingAttribute) (failed : item = .error fault)
    (other : ¬ ∃ kind ∈ missingItemKinds, fault.kind? = some kind) :
    ObjectAnswers attr item (.error fault)

/-- What a value answers to the name of a member. -/
inductive Value.Answers (name : String) : Value → Except Fault Value → Prop
  | nothing {value : Value} (memberless : value.IsMemberless) : Answers name value (.ok .null)
  | entry {entries : Dict} {value : Value} (found : Dict.named? entries name = some value) :
    Answers name (.dict entries) (.ok value)
  | noEntry {entries : Dict} (absent : Dict.named? entries name = none) :
    Answers name (.dict entries) (.ok .null)
  | object {identity : Nat} {kind : String} {text shown : Except Fault String}
    {members items : String → Except Fault Value} {outcome : Except Fault Value}
    (answer : ObjectAnswers (members name) (items name) outcome) :
    Answers name (.object identity kind text shown members items) outcome

/-- What a value comes to by the names of members from left to right: each name is asked of what the
one in front of it gave, and the first that fails is the last that is asked. -/
inductive Value.ComesTo : Value → List String → Except Fault Value → Prop
  | here {value : Value} : ComesTo value [] (.ok value)
  | onward {value next : Value} {name : String} {names : List String} {outcome : Except Fault Value}
    (answer : value.Answers name (.ok next)) (rest : ComesTo next names outcome) :
    ComesTo value (name :: names) outcome
  -- The names behind a failure are not asked for.
  | fails {value : Value} {name : String} {names : List String} {fault : Fault}
    (answer : value.Answers name (.error fault)) : ComesTo value (name :: names) (.error fault)

/-- Data holds no object of the host program, however deep, and no integer with too many digits. -/
inductive Value.IsData : Value → Prop
  | null : IsData .null
  | bool (value : Bool) : IsData (.bool value)
  -- An integer that is too long has no text.
  | int {value : Int} (short : IsShort value) : IsData (.int value)
  | float (identity : Nat) (value : Float) : IsData (.float identity value)
  | text (value : String) : IsData (.text value)
  | list {items : List Value} (each : ∀ item ∈ items, item.IsData) : IsData (.list items)
  | dict {entries : List (Value × Value)}
    (keys : ∀ entry ∈ entries, entry.1.IsData) (values : ∀ entry ∈ entries, entry.2.IsData) :
    IsData (.dict entries)

/-- The value of the last of some members, each of which is read from the one in front of it. -/
def Value.through (value : Value) : List String → Except Fault Value
  | [] => .ok value
  | name :: names => do
    let next ← value.member name
    next.through names

section

variable {name : String} {value : Value} {names front back : List String}
  {outcome : Except Fault Value}

/-- Data raises nothing. -/
theorem Value.IsData.not_raises (plain : value.IsData) (fault : Fault) : ¬ value.Raises fault := by
  -- The induction is on the data, whose parts are data themselves.
  induction plain with
  | @int number short => exact @Value.IsPlain.not_raises fault (.int number) short
  | list _ ih =>
    intro raises
    obtain ⟨item, among, inner⟩ := Value.raises_list.1 raises
    exact ih item among inner
  | dict _ _ keys values =>
    intro raises
    obtain ⟨entry, among, inner⟩ := Value.raises_dict.1 raises
    exact inner.elim (keys entry among) (values entry among)
  | _ => exact nofun

end

end Stencil
