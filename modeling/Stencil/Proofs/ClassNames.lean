import Mathlib
import Stencil.Component.Context
import Stencil.Proofs.Outcome

/-! The words of a class name: its component leads them, and each class and modifier adds more. -/

namespace Stencil

/-- The words of a text, which single spaces stand between. -/
def spacedWords (text : String) : List (List Char) :=
  text.toList.splitOn ' '

/-- A text without spaces is one word. -/
theorem spacedWords_single {text : String} (plain : ' ' ∉ text.toList) :
    spacedWords text = [text.toList] :=
  -- Without a blank there is nothing to split at.
  List.splitOn_eq_singleton plain

/-- Texts that are put one space apart have the words of each of them. -/
theorem spacedWords_intercalate (first : String) (others : List String) :
    spacedWords (" ".intercalate (first :: others)) = (first :: others).flatMap spacedWords := by
  -- Induction on the texts: each blank between two of them separates their words.
  induction others generalizing first with
  | nil => simp [spacedWords]
  | cons second others ih =>
    have joined : (" ".intercalate (first :: second :: others)).toList =
        first.toList ++ ' ' :: (" ".intercalate (second :: others)).toList := by
      simp [String.intercalate_cons_cons]
    rw [spacedWords, joined, List.splitOn_append_cons_self]
    exact congrArg (spacedWords first ++ ·) (ih second)

/-- A styling without empty texts. -/
structure Styling.IsFilled (styling : Styling) : Prop where
  classes : "" ∉ styling.classes
  modifiers : "" ∉ styling.modifiers

/-- All classes and modifiers, in the order of a class name. -/
def Styling.words (styling : Styling) : List String :=
  styling.classes ++ styling.modifiers

/-- No styling at all has no empty text. -/
theorem Styling.IsFilled.none : (⟨[], []⟩ : Styling).IsFilled :=
  ⟨by simp, by simp⟩

/-- Stylings without empty texts have none together. -/
theorem Styling.IsFilled.append {first second : Styling} (filled : first.IsFilled)
    (others : second.IsFilled) : (first.append second).IsFilled where
  -- No empty text is in either part.
  classes := by simp [Styling.append, filled.classes, others.classes]
  modifiers := by simp [Styling.append, filled.modifiers, others.modifiers]

/-- There is no empty text among those of a value. -/
theorem textsUnder_filled {key : String} {value : Node} {texts : List String}
    (found : textsUnder key value = .ok texts) : "" ∉ texts := by
  -- An empty constant is left out, and a list drops its empty items.
  obtain ⟨shape, _, rfl⟩ := map_eq_ok.1 found
  cases shape with
  | constant text =>
    simp only [StyleValue.texts]
    split <;> simp_all
  | list items => simp [StyleValue.texts]

section

variable {styling : Styling} {name word : String}

/-- There is no empty text in the styling of a pair. -/
theorem pairStyling_filled {key value : Node} (styled : pairStyling key value = .ok styling) :
    styling.IsFilled := by
  -- Three keys style the component, one of them its classes and two its modifiers. Any other key
  -- that is a constant only has to be fit for a dictionary.
  unfold pairStyling at styled
  split at styled
  · obtain ⟨texts, found, rfl⟩ := map_eq_ok.1 styled
    exact ⟨textsUnder_filled found, by simp⟩
  · obtain ⟨texts, found, rfl⟩ := map_eq_ok.1 styled
    exact ⟨by simp, textsUnder_filled found⟩
  · obtain ⟨texts, found, rfl⟩ := map_eq_ok.1 styled
    exact ⟨by simp, textsUnder_filled found⟩
  · split at styled
    · cases styled
      exact .none
    · cases styled
  · cases styled
    exact .none

/-- There is no empty text in the styling of pairs. -/
theorem pairsStyling_filled {keys values : List Node}
    (styled : pairsStyling keys values = .ok styling) : styling.IsFilled := by
  -- The induction follows the pairs, the styling of which is put together in order.
  induction keys generalizing values styling with
  | nil =>
    cases values with
    | nil =>
      cases styled
      exact .none
    | cons value values => cases styled
  | cons key keys ih =>
    cases values with
    | nil => cases styled
    | cons value values =>
      obtain ⟨first, found, behind⟩ := bind_eq_ok.1 styled
      obtain ⟨others, rest, joined⟩ := bind_eq_ok.1 behind
      cases joined
      exact (pairStyling_filled found).append (ih rest)

/-- There is no empty text in the styling of data. -/
theorem stylingOf_filled {data : Option Node} (styled : stylingOf data = .ok styling) :
    styling.IsFilled := by
  -- Without a hash there is nothing to style with.
  unfold stylingOf at styled
  split at styled
  · cases styled
    exact .none
  · exact pairsStyling_filled styled
  · cases styled

/-- A class or a modifier of a named component is neither empty nor the name. -/
theorem Styling.IsFilled.named (filled : styling.IsFilled)
    (given : word ∈ (styling.named name).words) : word ≠ "" ∧ word ≠ name := by
  rcases List.mem_append.1 given with asClass | asModifier
  · obtain ⟨among, other⟩ := List.mem_filter.1 asClass
    refine ⟨?_, by simpa using other⟩
    rintro rfl
    exact filled.classes among
  · -- What stands between the name and a modifier makes the word longer than both.
    obtain ⟨modifier, _, rfl⟩ := List.mem_map.1 asModifier
    have longer : (name ++ modifierSeparator ++ modifier).toList.length =
        name.toList.length + 2 + modifier.toList.length := by
      simp only [String.toList_append, List.length_append]
      rfl
    constructor
    · intro same
      rw [same] at longer
      simp only [String.toList_empty, List.length_nil] at longer
      omega
    · intro same
      rw [same] at longer
      omega

/-- The words of a class name are the name and those of the classes and the modifiers. -/
theorem className_words (plain : ' ' ∉ name.toList) (styling : Styling) :
    spacedWords (className name styling) =
      name.toList :: styling.words.flatMap spacedWords := by
  -- The name is one word, and the words of the items follow in their order.
  rw [className, List.cons_append, spacedWords_intercalate, List.flatMap_cons,
    spacedWords_single plain]
  rfl

/-- A class name starts with the name of its component. Gaps in it, and further names, are those of
the classes and modifiers that have spaces; all of the others are single words, and not the name. -/
theorem className_spaced {data : Option Node} (styled : stylingOf data = .ok styling)
    (full : name ≠ "") (plain : ' ' ∉ name.toList) :
    (spacedWords (className name (styling.named name))).head? = some name.toList ∧
      ([] ∈ spacedWords (className name (styling.named name)) ↔
        ∃ word ∈ (styling.named name).words, ' ' ∈ word.toList ∧ [] ∈ spacedWords word) ∧
      ((spacedWords (className name (styling.named name))).count name.toList = 1 ↔
        ∀ word ∈ (styling.named name).words, ' ' ∈ word.toList →
          name.toList ∉ spacedWords word) := by
  have words := className_words plain (styling.named name)
  have filled := stylingOf_filled styled
  rw [words]
  -- A class or a modifier without spaces is one word, and neither of these.
  have spaced {word : String} (given : word ∈ (styling.named name).words) {part : List Char}
      (among : part ∈ spacedWords word) (wanted : part = [] ∨ part = name.toList) :
      ' ' ∈ word.toList := by
    obtain ⟨some, other⟩ := filled.named given
    by_cases unspaced : ' ' ∈ word.toList
    · exact unspaced
    · rw [spacedWords_single unspaced, List.mem_singleton] at among
      subst among
      rcases wanted with empty | same
      · exact absurd (String.toList_eq_nil_iff.1 empty) some
      · exact absurd (String.toList_inj.1 same) other
  refine ⟨rfl, ?_, ?_⟩
  · rw [List.mem_cons, List.mem_flatMap]
    constructor
    · rintro (empty | ⟨word, given, gap⟩)
      · exact absurd (String.toList_eq_nil_iff.1 empty.symm) full
      · exact ⟨word, given, spaced given gap (.inl rfl), gap⟩
    · rintro ⟨word, given, _, gap⟩
      exact .inr ⟨word, given, gap⟩
  · rw [List.count_cons_self, Nat.add_eq_right, List.count_eq_zero, List.mem_flatMap]
    constructor
    · intro none word given _ again
      exact none ⟨word, given, again⟩
    · rintro each ⟨word, given, again⟩
      exact each word given (spaced given again (.inr rfl)) again

end

/-- Data that gives one class with a space in it. -/
def spacedData (words : String) : Option Node :=
  some (.hash .start [.constant .start (.text "classes")] [.constant .start (.text words)])

/-- Classes that end in a word other than the name are in order, whatever spaces they have. -/
theorem className_spaced_wide :
    stylingOf (spacedData "wide dark") = .ok ⟨["wide dark"], []⟩ ∧
      [] ∉ spacedWords (className "Nav" (Styling.named ⟨["wide dark"], []⟩ "Nav")) ∧
      (spacedWords (className "Nav" (Styling.named ⟨["wide dark"], []⟩ "Nav"))).count
        "Nav".toList = 1 := by
  -- The styling of the data is evaluated, and the two counts come from the general statement.
  have styled : stylingOf (spacedData "wide dark") = .ok ⟨["wide dark"], []⟩ := by cbv
  obtain ⟨_, gap, once⟩ := @className_spaced _ "Nav" _ styled (by decide) (by decide)
  refine ⟨styled, ?_, ?_⟩
  · rw [gap]
    decide
  · rw [once]
    decide

/-- The name of a component may follow a space in a class, and two spaces leave a gap. -/
theorem className_name_twice :
    stylingOf (spacedData "wide Nav") = .ok ⟨["wide Nav"], []⟩ ∧
      className "Nav" (Styling.named ⟨["wide Nav"], []⟩ "Nav") = "Nav wide Nav" ∧
      (spacedWords "Nav wide Nav").count "Nav".toList = 2 ∧
      stylingOf (spacedData "a  b") = .ok ⟨["a  b"], []⟩ ∧
      className "Nav" (Styling.named ⟨["a  b"], []⟩ "Nav") = "Nav a  b" ∧
      [] ∈ spacedWords "Nav a  b" := by
  -- An item is compared with the name as a whole, so a word inside of it is kept, and so is a
  -- second blank.
  refine ⟨?_, ?_, ?_, ?_, ?_, ?_⟩
  · cbv
  · decide
  · decide
  · cbv
  · decide
  · decide

end Stencil
