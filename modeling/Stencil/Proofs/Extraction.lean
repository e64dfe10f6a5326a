import Stencil.Component.Styling
import Stencil.Proofs.WrittenNodes

/-! What data says about classes and modifiers: the words in order, or the first problem. -/

namespace Stencil

/-- The keys under which data gives classes. -/
def classKeys : List String := ["classes"]

/-- The keys under which data gives modifiers. -/
def modifierKeys : List String := ["modifier", "modifiers"]

/-- The text of a key, if it is one of those that are wanted. -/
def Node.keyAmong? (wanted : List String) : Node → Option String
  | .constant _ (.text word) => if word ∈ wanted then some word else none
  | _ => none

/-- The value of a constant. -/
def Node.constant? : Node → Option Value
  | .constant _ value => some value
  | _ => none

/-- A constant has its value. -/
@[simp] theorem Node.constant?_constant (position : Position) (value : Value) :
    (Node.constant position value).constant? = some value := rfl

/-- The constants that classes or modifiers are given by: one, or those of a list. -/
def Node.constants : Node → List Value
  | .list _ items => items.filterMap Node.constant?
  | node => node.constant?.toList

/-- The word of a constant: null has none, and truth values are written as in a source. -/
def Value.styleWord : Value → String
  | .null => ""
  | .bool value => if value then "true" else "false"
  -- All that is written in a source has a text.
  | value => value.print.toOption.getD ""

/-- The words of a value of classes or modifiers, without the empty ones. -/
def Node.styleWords (node : Node) : List String :=
  (node.constants.map Value.styleWord).filter fun word => !word.isEmpty

/-- The words under the wanted keys, in the order of the pairs. -/
def wordsUnder (wanted : List String) (pairs : List (Node × Node)) : List String :=
  (pairs.filter fun pair => (pair.1.keyAmong? wanted).isSome).flatMap (·.2.styleWords)

/-- The pairs of data as they are written; data that is no hash has none. -/
def writtenPairs : Option Node → List (Node × Node)
  | some (.hash _ keys values) => keys.zip values
  | _ => []

/-- What is wrong with a value of classes or modifiers; of a list, with its first such item. -/
def Node.styleProblem? (key : String) : Node → Option DataProblem
  | .list _ items =>
    (items.find? (·.constant?.isNone)).map fun item => .notConstantItem key item.kindName
  | node => if node.constant?.isSome then none else some (.notConstant key node.kindName)

/-- What is wrong with a pair. -/
def pairProblem? (pair : Node × Node) : Option DataProblem :=
  (pair.1.keyAmong? (classKeys ++ modifierKeys)).bind pair.2.styleProblem?

/-- What is wrong with data; of a hash, with the first such pair. -/
def dataProblem? : Option Node → Option DataProblem
  | none => none
  | some (.hash _ keys values) => (keys.zip values).findSome? pairProblem?
  | some node => some (.notHash node.kindName)

/-- A value of classes or modifiers: a constant, or a list of constants only. -/
def Node.IsStyle : Node → Prop
  | .list _ items => ∀ item ∈ items, item.constant?.isSome
  | node => node.constant?.isSome

/-- Data that says how a component is styled: there is none, or it is a hash in which classes and
modifiers are constants. -/
def FitsStyling : Option Node → Prop
  | none => True
  | some (.hash _ keys values) => ∀ pair ∈ keys.zip values,
    (pair.1.keyAmong? (classKeys ++ modifierKeys)).isSome → pair.2.IsStyle
  | _ => False

/-- A value is one of classes or modifiers just if nothing is wrong with it. -/
theorem Node.styleProblem?_eq_none {key : String} {node : Node} :
    node.styleProblem? key = none ↔ node.IsStyle := by
  -- A list has no problem just if all of its items are constants, and anything else is one itself.
  unfold styleProblem? IsStyle
  split
  · simp only [Option.map_eq_none_iff, List.find?_eq_none, Option.isNone_iff_eq_none,
      Option.isSome_iff_ne_none, ne_eq]
  · cases node.constant? <;> simp

/-- Data says how a component is styled just if nothing is wrong with it. -/
theorem dataProblem?_eq_none {data : Option Node} :
    dataProblem? data = none ↔ FitsStyling data := by
  unfold dataProblem? FitsStyling
  split
  · simp
  · -- A pair is asked for its value only if its key is one of styling.
    simp only [List.findSome?_eq_none_iff, pairProblem?, Option.bind_eq_none_iff,
      Node.styleProblem?_eq_none, Option.isSome_iff_exists, forall_exists_index]
  · rename_i other
    simp only [reduceCtorEq, false_iff]
    split <;> simp_all

/-- A meaning, unless there is a problem. -/
def unlessProblem {Meaning : Type} (problem : Option DataProblem) (meaning : Meaning) :
    Except DataFault Meaning :=
  problem.elim (.ok meaning) fun problem => .error (.problem problem)

/-- A problem stays what it is, whatever its meaning would have become. -/
theorem unlessProblem_map {Meaning Other : Type} (change : Meaning → Other)
    (problem : Option DataProblem) (meaning : Meaning) :
    (unlessProblem problem meaning).map change = unlessProblem problem (change meaning) := by
  -- A problem passes through a change of the meaning.
  cases problem <;> rfl

/-- A problem ends what would have followed. -/
theorem unlessProblem_bind {Meaning Other : Type} (change : Meaning → Other)
    (problem : Option DataProblem) (meaning : Meaning) :
    (unlessProblem problem meaning >>= fun value => .ok (change value)) =
      unlessProblem problem (change meaning) := by
  -- The step that follows cannot fail.
  cases problem <;> rfl

/-- A plain constant has its word. -/
theorem styleText_plain {value : Value} (plain : value.IsPlain) :
    styleText value = .ok value.styleWord := by
  obtain ⟨text, printed⟩ := print_plain plain
  cases value with
  | null | bool => rfl
  -- Every other plain value is asked for its text, which it has.
  | int | float | text => simp [styleText, Value.styleWord, printed, Except.toOption]
  | list | dict | object => exact plain.elim

/-- Written items have the words of their constants, unless one of them is no constant. -/
theorem styleItems_written (key : String) {items : List Node}
    (written : Node.AreExpressions items) :
    styleItems key items = unlessProblem ((items.find? (·.constant?.isNone)).map fun item =>
        .notConstantItem key item.kindName)
      ((items.filterMap Node.constant?).map Value.styleWord) := by
  induction items with
  | nil => rfl
  | cons item items ih =>
    obtain ⟨head, tail⟩ := written
    cases item with
    | constant position value =>
      -- A constant is none of the items that are looked for.
      simp only [styleItems, styleText_plain head, ok_bind, ih tail, unlessProblem_bind,
        List.find?_cons, Node.constant?_constant, Option.isNone_some, List.filterMap_cons,
        List.map_cons]
    | _ => rfl

/-- A written value has its words, unless it is neither a constant nor a list of constants. -/
theorem textsUnder_written (key : String) {value : Node} (written : value.IsExpression) :
    textsUnder key value = unlessProblem (value.styleProblem? key) value.styleWords := by
  -- A constant has its text and a list those of its items. Every other phrase is refused.
  cases value with
  | constant position value =>
    simp only [textsUnder, classify, styleText_plain written, map_ok, StyleValue.texts,
      Node.styleProblem?, Node.styleWords, Node.constants, Node.constant?_constant]
    by_cases empty : value.styleWord.isEmpty <;> simp [unlessProblem, empty]
  | list position items =>
    simp only [textsUnder, classify, styleItems_written key written, unlessProblem_map,
      StyleValue.texts, Node.styleProblem?, Node.styleWords, Node.constants]
  | _ => rfl

/-- The words of a pair come before those of the pairs behind it. -/
theorem wordsUnder_cons (wanted : List String) (pair : Node × Node) (pairs : List (Node × Node)) :
    wordsUnder wanted (pair :: pairs) = wordsUnder wanted [pair] ++ wordsUnder wanted pairs := by
  -- The pair in front is filtered by itself.
  simp only [wordsUnder, List.filter_cons]
  split <;> simp

/-- The styling that pairs give. -/
def writtenStyling (pairs : List (Node × Node)) : Styling :=
  ⟨wordsUnder classKeys pairs, wordsUnder modifierKeys pairs⟩

/-- A written pair gives its words as classes or as modifiers, unless something is wrong with it. -/
theorem pairStyling_written {key value : Node} (keyWritten : key.IsKey)
    (written : value.IsExpression) :
    pairStyling key value = unlessProblem (pairProblem? (key, value))
      (writtenStyling [(key, value)]) := by
  unfold Node.IsKey at keyWritten
  split at keyWritten
  · rename_i position word
    -- Each of the three keys has its own place, and any other text has none.
    by_cases classes : word = "classes"
    · subst classes
      simp [pairStyling, textsUnder_written _ written, unlessProblem_map, pairProblem?,
        Node.keyAmong?, classKeys, modifierKeys, writtenStyling, wordsUnder]
    by_cases modifier : word = "modifier"
    · subst modifier
      simp [pairStyling, textsUnder_written _ written, unlessProblem_map, pairProblem?,
        Node.keyAmong?, classKeys, modifierKeys, writtenStyling, wordsUnder]
    by_cases modifiers : word = "modifiers"
    · subst modifiers
      simp [pairStyling, textsUnder_written _ written, unlessProblem_map, pairProblem?,
        Node.keyAmong?, classKeys, modifierKeys, writtenStyling, wordsUnder]
    · simp [pairStyling, Value.isKey, pairProblem?, Node.keyAmong?, classKeys, modifierKeys,
        writtenStyling, wordsUnder, unlessProblem, classes, modifier, modifiers]
  · rfl
  · exact keyWritten.elim

/-- Written pairs give their words in order, unless something is wrong with one of them. -/
theorem pairsStyling_written {keys values : List Node} (keysWritten : ∀ key ∈ keys, key.IsKey)
    (written : Node.AreExpressions values) (paired : keys.length = values.length) :
    pairsStyling keys values = unlessProblem ((keys.zip values).findSome? pairProblem?)
      (writtenStyling (keys.zip values)) := by
  induction keys generalizing values with
  | nil =>
    cases values with
    | nil => rfl
    | cons value values => simp at paired
  | cons key keys ih =>
    cases values with
    | nil => simp at paired
    | cons value values =>
      obtain ⟨head, tail⟩ := written
      have first := pairStyling_written (keysWritten key (by simp)) head
      have others := ih (fun other member => keysWritten other (by simp [member])) tail
        (by simpa using paired)
      simp only [pairsStyling, first, others, List.zip_cons_cons, List.findSome?_cons]
      -- The first problem ends the search, and without any the words are put together.
      cases pairProblem? (key, value) with
      | some problem => rfl
      | none =>
        cases (keys.zip values).findSome? pairProblem? with
        | some problem => rfl
        | none =>
          simp only [unlessProblem, Option.elim, ok_bind, Styling.append, writtenStyling,
            wordsUnder_cons _ (key, value) (keys.zip values)]

/-- Written data gives its words in order, unless something is wrong with it. -/
theorem stylingOf_written {data : Option Node} (written : ∀ node ∈ data, node.IsExpression) :
    stylingOf data = unlessProblem (dataProblem? data) (writtenStyling (writtenPairs data)) := by
  -- A hash is read pair by pair, missing data has no styling, and any other phrase is refused by
  -- its kind.
  unfold stylingOf dataProblem? writtenPairs
  split
  · rfl
  · obtain ⟨keysWritten, valuesWritten, paired⟩ := written _ rfl
    exact pairsStyling_written keysWritten valuesWritten paired
  · rename_i node other
    cases node with
    | hash position keys values => exact absurd rfl (other position keys values)
    | _ => rfl

/-- The styling of a named component as its data says it: the name is no class, and it leads every
modifier. -/
def extracted (word : String) (data : Option Node) : Styling where
  classes := (wordsUnder classKeys (writtenPairs data)).filter (· ≠ word)
  modifiers := (wordsUnder modifierKeys (writtenPairs data)).map fun modifier =>
    word ++ "--" ++ modifier

/-- Written data that fits is extracted. -/
theorem stylingOf_extracted {data : Option Node} (written : ∀ node ∈ data, node.IsExpression)
    {styling : Styling} (styled : stylingOf data = .ok styling) (word : String) :
    styling.named word = extracted word data := by
  -- The styling was found, so there is no problem, and what is left on both sides is what was
  -- written.
  rw [stylingOf_written written] at styled
  cases problem : dataProblem? data with
  | some problem => simp [problem, unlessProblem] at styled
  | none =>
    simp only [problem, unlessProblem, Option.elim, Except.ok.injEq] at styled
    subst styled
    rfl

end Stencil
