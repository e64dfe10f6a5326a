import Stencil.Proofs.Comparison
import Stencil.Proofs.Invocation

/-! What a node comes to depends on the context by the variables that it reads. -/

namespace Stencil

mutual

/-- The variables that an expression reads. -/
def Node.reads : Node → List String
  | .name _ word => [word]
  | .member _ object _ => object.reads
  | .list _ items => Node.allRead items
  -- The keys of a written hash are constants, but a tree that is built by hand may read there.
  | .hash _ keys values => Node.allRead keys ++ Node.allRead values
  | _ => []

/-- The variables that expressions read. -/
def Node.allRead : List Node → List String
  | [] => []
  | node :: nodes => node.reads ++ Node.allRead nodes

end

/-- The variables that the name and the data of a component read. -/
def componentReads (name : Node) (data : Option Node) : List String :=
  name.reads ++ data.elim [] Node.reads

/-- The variables that a node of a body reads by itself: outputs, names and data. -/
def Node.variables : Node → List String
  | .output _ expression => expression.reads
  | .component _ called _ given _ => componentReads called given
  | _ => []

namespace Comparison

section

variable (compare : Comparison)

/-- A fault of a value is the same failure for both. -/
theorem ofFault {Meaning : Type} (outcome : Except Fault Meaning) :
    compare.Holds Eq (Stencil.ofFault outcome) (Stencil.ofFault outcome) := by
  -- The outcome is the same on both sides.
  cases outcome with
  | ok meaning => exact compare.found rfl
  | error fault => exact compare.failed _

/-- What cannot be a key is a mishap. -/
theorem checkKey (key : Value) :
    compare.Holds Eq (Stencil.checkKey key) (Stencil.checkKey key) := by
  -- The check looks at nothing but the key.
  unfold Stencil.checkKey
  split
  · exact compare.found rfl
  · exact compare.failed _

/-- What cannot be an early key is a mishap. -/
theorem checkEarly (early : Nat) (key : Value) :
    compare.Holds Eq (Stencil.checkEarly early key) (Stencil.checkEarly early key) := by
  -- The check is made early or not at all, on both sides alike.
  unfold Stencil.checkEarly
  split
  · exact compare.checkKey key
  · exact compare.found rfl

/-- Entries that cannot be stored are a mishap. -/
theorem storeEntries (base : Dict) (entries : List (Value × Value)) :
    compare.Holds Eq (Stencil.storeEntries base entries) (Stencil.storeEntries base entries) := by
  -- Only the check of the keys may fail.
  have checked : compare.Holds Eq (checkKeys entries) (checkKeys entries) := by
    induction entries with
    | nil => exact compare.found rfl
    | cons entry entries ih => exact compare.bind (compare.checkKey entry.1) fun _ _ _ => ih
  exact compare.bind checked fun _ _ _ => compare.found rfl

/-- Parts that compare one by one do so together. -/
theorem collect {Meaning : Type} {outcomes others : List (Except Failure Meaning)}
    (each : List.Forall₂ (compare.Holds Eq) outcomes others) :
    compare.Holds Eq (Stencil.collect outcomes) (Stencil.collect others) := by
  -- Induction on the outcomes: the first pair is compared before the others.
  induction each with
  | nil => exact compare.found rfl
  | cons head _ ih =>
    refine compare.bind head fun value other same => compare.bind ih fun values rest equal => ?_
    subst same equal
    exact compare.found rfl

/-- Keys and values that compare make entries that do. -/
theorem collectEntries {keys otherKeys values otherValues : List (Except Failure Value)}
    (eachKey : List.Forall₂ (compare.Holds Eq) keys otherKeys)
    (eachValue : List.Forall₂ (compare.Holds Eq) values otherValues) (early : Nat) :
    compare.Holds Eq (Stencil.collectEntries early keys values)
      (Stencil.collectEntries early otherKeys otherValues) := by
  -- Each key comes before its value, and the check of the key after both.
  induction eachKey generalizing values otherValues early with
  | nil => cases eachValue <;> exact compare.found rfl
  | cons key _ ih =>
    cases eachValue with
    | nil => exact compare.found rfl
    | cons value eachValue =>
      refine compare.bind key fun first other same =>
        compare.bind value fun second another equal => ?_
      subst same equal
      refine compare.bind (compare.checkEarly early first) fun _ _ _ => ?_
      refine compare.bind (ih eachValue (early - 1)) fun rest others equal => ?_
      exact compare.found (by rw [equal])

variable {read other : String → Except Failure Value}

mutual

/-- An expression whose variables compare as they are read has values that do. -/
theorem value : ∀ node : Node, (∀ word ∈ node.reads, compare.Holds Eq (read word) (other word)) →
    compare.Holds Eq (node.value read) (node.value other)
  | .constant _ value, _ => compare.found rfl
  | .name _ word, reads => reads word (by simp [Node.reads])
  | .member _ object word, reads =>
    -- The object decides, since its member is a mishap or the same for both.
    compare.bind (value object reads) fun _ _ same => same ▸ compare.ofFault _
  | .list _ items, reads =>
    compare.bind (compare.collect (values items reads)) fun _ _ same =>
      compare.found (by rw [same])
  | .hash _ keys entries, reads => by
    have eachKey := values keys fun word member => reads word (by simp [Node.reads, member])
    have eachValue := values entries fun word member => reads word (by simp [Node.reads, member])
    -- Entries that are the same are stored in the same way.
    refine compare.bind (compare.collectEntries eachKey eachValue _) fun stored _ same => ?_
    subst same
    exact compare.bind (compare.storeEntries [] stored) fun _ _ same =>
      compare.found (by rw [same])
  | .data .., _ | .output .., _ | .component .., _ | .template .., _ => compare.failed _

/-- Expressions whose variables compare as they are read have values that do. -/
theorem values : ∀ nodes : List Node,
    (∀ word ∈ Node.allRead nodes, compare.Holds Eq (read word) (other word)) →
      List.Forall₂ (compare.Holds Eq) (Node.values read nodes) (Node.values other nodes)
  -- The list is walked in step with the tree above.
  | [], _ => .nil
  | node :: nodes, reads =>
    .cons (value node fun word member => reads word (by simp [Node.allRead, member]))
      (values nodes fun word member => reads word (by simp [Node.allRead, member]))

end

/-- An expression whose variables compare as they are read has texts that do. -/
theorem printed (node : Node)
    (reads : ∀ word ∈ node.reads, compare.Holds Eq (read word) (other word)) :
    compare.Holds Eq (node.printed read) (node.printed other) :=
  -- Equal values have equal texts, or fail alike.
  compare.bind (compare.value node reads) fun _ _ same => same ▸ compare.ofFault _

/-- Data whose variables compare as they are read adds entries that do. -/
theorem dataEntries (data : Option Node)
    (reads : ∀ word ∈ data.elim [] Node.reads, compare.Holds Eq (read word) (other word)) :
    compare.Holds Eq (Stencil.dataEntries read data) (Stencil.dataEntries other data) := by
  cases data with
  | none => exact compare.found rfl
  | some node =>
    refine compare.bind (compare.value node reads) fun value _ same => ?_
    subst same
    -- What is not a dictionary is a mishap as well.
    cases value with
    | dict entries => exact compare.found rfl
    | _ => exact compare.failed _

/-- A component is invoked with templates that are kin, and in the same context, if its variables
compare as they are read in two surroundings, and if it sees no more of the context. -/
theorem invocation {Loaded Other : Type} {around : Surroundings Loaded}
    {beside : Surroundings Other} {kin : Loaded → Other → Prop} {site : Site}
    {first second : Frame} {context rival : Dict} {name : Node} {variant : Option String}
    {data : Option Node} {only : Bool}
    (reads : ∀ word ∈ componentReads name data,
      compare.Holds Eq (around.lookup first context word) (beside.lookup second rival word))
    (summons : ∀ word, compare.Holds kin (around.summon site first.line name variant word)
      (beside.summon site second.line name variant word))
    (stylings : ∀ word, compare.Holds Eq (site.styling word first.line data)
      (site.styling word second.line data))
    (cutOff : site.cutsOff only = true ∨ context = rival) :
    compare.Holds (fun invoked again => kin invoked.1 again.1 ∧ invoked.2 = again.2)
      (around.invocation site first context name variant data only)
      (beside.invocation site second rival name variant data only) := by
  have named := compare.printed name fun word member =>
    reads word (by simp [componentReads, member])
  have entries := compare.dataEntries data fun word member =>
    reads word (by simp [componentReads, member])
  -- The base is made of the entries, and of the context only where that is the same.
  have bases : compare.Holds Eq
      (site.mergeBase (around.lookup first context) context data only)
      (site.mergeBase (beside.lookup second rival) rival data only) := by
    refine compare.bind entries fun added others same => compare.found ?_
    rcases cutOff with cut | equal
    · simp only [cut, same, if_true]
    · rw [same, equal]
  refine compare.bind named fun word _ same => ?_
  subst same
  refine compare.bind (summons word) fun loaded twin related => ?_
  refine compare.bind bases fun base _ same => ?_
  subst same
  refine compare.bind (stylings word) fun styling _ same => ?_
  subst same
  exact compare.found ⟨related, rfl⟩

end

end Comparison

section

variable {failed : Failure → Failure → Prop}

/-- An expression whose variables are read alike is printed alike. -/
theorem printed_alike {read other : String → Except Failure Value}
    (itself : ∀ failure, failed failure failure) (node : Node)
    (reads : ∀ word ∈ node.reads, Alike failed Eq (read word) (other word)) :
    Alike failed Eq (node.printed read) (node.printed other) :=
  -- The statement about comparisons, with the relation between failures as the comparison.
  (Comparison.alike failed itself).printed node reads

/-- A component is invoked alike in two frames if its variables are read alike, and if it sees no
more of the context. -/
theorem invocation_alike {Loaded : Type} {around : Surroundings Loaded}
    (itself : ∀ failure, failed failure failure) {site : Site}
    {frame beside : Frame} {context second : Dict} {name : Node} {variant : Option String}
    {data : Option Node} {only : Bool}
    (reads : ∀ word ∈ componentReads name data,
      Alike failed Eq (around.lookup frame context word) (around.lookup beside second word))
    (summons : ∀ word, Alike failed Eq (around.summon site frame.line name variant word)
      (around.summon site beside.line name variant word))
    (stylings : ∀ word, Alike failed Eq (site.styling word frame.line data)
      (site.styling word beside.line data))
    (cutOff : site.cutsOff only = true ∨ context = second) :
    Alike failed Eq (around.invocation site frame context name variant data only)
      (around.invocation site beside second name variant data only) := by
  let compare := Comparison.alike failed itself
  -- What is kin is the same here, so that the whole of both invocations is.
  exact compare.imp (compare.invocation reads summons stylings cutOff) fun _ _ related =>
    Prod.ext related.1 related.2

end

end Stencil
