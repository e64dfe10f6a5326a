import Stencil.Proofs.CompiledSources
import Stencil.Proofs.FailureClasses

/-! Two sources one behind the other render what each of them renders, one behind the other. -/

namespace Stencil

section

variable {Loaded : Type} {around : Surroundings Loaded} {script : Script} {frame : Frame}
  {context : Dict}

/-- A text that opens nothing renders as itself. -/
theorem bodyText_dataNodes (place : Position) (text : List Char) :
    script.bodyText around frame context (dataNodes place text) = .ok (String.ofList text) := by
  -- Empty text is no node, other text is one.
  unfold dataNodes
  split
  · next empty =>
    rw [empty]
    rfl
  · simp [Script.bodyText, Script.nodeText]

end

/-- A render starts with the body of its tree, in a frame that knows its source. -/
theorem root_text {maker environment : Environment} {name file source : Option String}
    {tree : Node} {context : Dict} :
    (environment.root (maker.scriptOf tree name file source) context).text environment =
      (maker.scriptOf tree name file source).bodyText (environment.components maker.strict)
        (Frame.root name file source environment.maxDepth) context tree.body :=
  -- The text of an activation is that of its body.
  Activation.text_eq

/-- What comes of two parts, one behind the other: the texts of both, or the failure of the first
part that fails, as it is related to that of the whole. -/
structure Joins (sameFront sameBack : Failure → Failure → Prop)
    (front back whole : Except Failure String) : Prop where
  texts : ∀ text rest, front = .ok text → back = .ok rest → whole = .ok (text ++ rest)
  failsFirst : ∀ failure, front = .error failure →
    ∃ other, whole = .error other ∧ sameFront failure other
  -- A failure behind the seam stands on another line of the whole.
  failsBehind : ∀ text failure, front = .ok text → back = .error failure →
    ∃ other, whole = .error other ∧ sameBack failure other

section

variable {sameFront sameBack : Failure → Failure → Prop}
  {front back head tail whole : Except Failure String}

/-- Bodies that share the data at their seam are joined if what is around it is alike. -/
theorem joins_seam (alike : Alike sameFront Eq front head)
    (alikeBehind : Alike sameBack Eq back tail) (plain lead : String) :
    Joins sameFront sameBack (front >>= fun text => .ok (text ++ plain))
      (back >>= fun text => .ok (lead ++ text))
      (head >>= fun text => tail >>= fun rest => .ok (text ++ (plain ++ lead ++ rest))) := by
  -- The second part has its turn only if the first one has a text.
  cases alike with
  | failed same =>
    refine ⟨fun _ _ started => ?_, fun failure failed => ?_, fun _ _ started => ?_⟩
    · cases started
    · cases failed
      exact ⟨_, rfl, same⟩
    · cases started
  | found same =>
    subst same
    cases alikeBehind with
    | failed same =>
      refine ⟨fun _ _ _ ended => ?_, fun failure failed => ?_, fun _ _ _ failed => ?_⟩
      · cases ended
      · cases failed
      · cases failed
        exact ⟨_, rfl, same⟩
    | found same =>
      subst same
      refine ⟨fun _ _ started ended => ?_, fun failure failed => ?_, fun _ _ _ failed => ?_⟩
      · cases started
        cases ended
        simp [String.append_assoc]
      · cases failed
      · cases failed

/-- What is joined is joined by weaker relations. -/
theorem Joins.imp {weakFront weakBack : Failure → Failure → Prop}
    (joins : Joins sameFront sameBack front back whole)
    (weaken : ∀ failure other, sameFront failure other → weakFront failure other)
    (weakenBehind : ∀ failure other, sameBack failure other → weakBack failure other) :
    Joins weakFront weakBack front back whole where
  -- Only the relations between failures are weakened.
  texts := joins.texts
  failsFirst failure failed :=
    let ⟨other, same, related⟩ := joins.failsFirst failure failed
    ⟨other, same, weaken _ _ related⟩
  failsBehind text failure started failed :=
    let ⟨other, same, related⟩ := joins.failsBehind text failure started failed
    ⟨other, same, weakenBehind _ _ related⟩

end

/-- A tree that has the nodes of two others comes to what both of them come to. -/
theorem Seamed.joins {front back whole : Node} (seamed : Seamed front back whole)
    (maker environment : Environment) (name file first second source : Option String)
    (context : Dict) :
    Joins Blur.snippets.Same Blur.places.Same
      ((environment.root (maker.scriptOf front name file first) context).text environment)
      ((environment.root (maker.scriptOf back name file second) context).text environment)
      ((environment.root (maker.scriptOf whole name file source) context).text environment) := by
  cases seamed with
  | @joined before after place plain lead move split splitBehind joined =>
    simp only [root_text, split, splitBehind, joined, bodyText_append, bodyText_dataNodes, ok_bind,
      bind_assoc, String.ofList_append]
    refine joins_seam ?_ ?_ _ _
    · -- In front of the seam only the source of the script is another one.
      have near : (Frame.root name file first environment.maxDepth).withoutSource =
          (Frame.root name file source environment.maxDepth).withoutSource := rfl
      exact ((Blur.snippets.simulation (.self environment)).renders _).bodyText
        (maker.scriptOf front name file first) (maker.scriptOf whole name file source) near rfl
        (Blur.snippets.reads _ rfl) context before
    · -- Behind it, the lines are others as well.
      exact ((Blur.places.simulation (.self environment)).renders _).bodyText_moved
        (maker.scriptOf back name file second) (maker.scriptOf whole name file source) rfl
        (Blur.places.reads _ rfl) context move fun _ _ => rfl

/-- A template of a tree that has the nodes of two others renders what the templates of both render,
whatever it is rendered with. -/
theorem Seamed.render {tree other joined : Node} (seamed : Seamed tree other joined)
    {maker : Environment} {name file first second source : Option String}
    {front back whole : Template} (made : front.IsOf (maker.scriptOf tree name file first))
    (madeBehind : back.IsOf (maker.scriptOf other name file second))
    (madeWhole : whole.IsOf (maker.scriptOf joined name file source))
    (environment : Option Environment) (arguments : List Value) (keywords : Dict) :
    Joins Failure.SamePlace Failure.SameClass (front.render environment arguments keywords)
      (back.render environment arguments keywords)
      (whole.render environment arguments keywords) := by
  rcases render_refused environment arguments keywords with
    ⟨accident, refused⟩ | ⟨given, context, rfl, named, rooted⟩
  · -- What is wrong with the arguments is wrong for all three templates.
    rw [refused front _ rfl, refused back _ rfl, refused whole _ rfl, made.name_eq,
      madeWhole.name_eq]
    refine ⟨fun _ _ started => ?_, fun failure failed => ?_, fun _ _ started => ?_⟩
    · cases started
    · cases failed
      exact ⟨_, rfl, Failure.samePlace_of rfl⟩
    · cases started
  · rw [render_eq_text made named rooted, render_eq_text madeBehind named rooted,
      render_eq_text madeWhole named rooted]
    exact (seamed.joins maker given name file first second source context).imp
      (fun _ _ => Failure.samePlace_of) fun _ _ => Failure.sameClass_of

/-- Sources that are compiled one by one are compiled one behind the other, unless they meet in what
opens something. Whatever they are rendered with, the whole has the texts of both; it fails at the
place where the first one fails, and else with the class of failure that the second one fails with.
A source that opens nothing renders as itself. -/
theorem render_append (maker : Environment) (name file : Option String) :
    (∀ first second front back, maker.ofSource first name file = .ok front →
      maker.ofSource second name file = .ok back →
      ¬ MeetsOpening first.toList second.toList →
      ∃ whole, maker.ofSource (first ++ second) name file = .ok whole ∧
        ∀ environment arguments keywords, Joins Failure.SamePlace Failure.SameClass
          (front.render environment arguments keywords)
          (back.render environment arguments keywords)
          (whole.render environment arguments keywords)) ∧
    ∀ text, OpensNothing text.toList → checkNames name file = .ok () →
      ∃ plain, maker.ofSource text name file = .ok plain ∧
        ∀ environment arguments keywords context, checkKeywords keywords = .ok () →
          rootContext environment.globals arguments keywords = .ok context →
          plain.render (some environment) arguments keywords = .ok text := by
  -- Apart from an opener at the seam, the two sources are cut as one. Plain text is cut into one
  -- piece of data.
  constructor
  · intro first second front back made madeBehind apart
    obtain ⟨_, _, _, whole, seamed, compiled, compiledBehind, madeWhole, compiledWhole⟩ :=
      ofSource_append made madeBehind apart
    exact ⟨whole, madeWhole, seamed.render compiled compiledBehind compiledWhole⟩
  · intro text opensNothing names
    obtain ⟨plain, made, compiled⟩ := ofSource_plain maker opensNothing names
    refine ⟨plain, made, fun environment arguments keywords context named rooted => ?_⟩
    rw [render_eq_text compiled named rooted, root_text, Node.body, bodyText_dataNodes,
      String.ofList_toList]

/-- An environment with a component that prints what it is given. -/
def labelEnvironment : Environment :=
  { Environment.default with
    loader := some (.held [("Label/label.html", "<\x7b\x7b words \x7d\x7d>")]) }

/-- A source that ends in a brace, behind a variable on another line. -/
def braceSource : String :=
  "\x7b\x7b user \x7d\x7d\n\x7b"

/-- A source that starts with plain text, and then invokes the component on its second line. -/
def labelSource : String :=
  " a \x7d\n\x7b% view 'Label' \x7bwords: title\x7d %\x7d"

/-- The user that the first source prints, and the title that the second one hands on. -/
def labelArguments : Dict :=
  [(.text "user", .text "Ada"), (.text "title", .text "B")]

/-- What a source comes to as a page, unless it has failed with some class of failure. -/
def labelPage (source : String) (keywords : Dict) : Except Family String :=
  (labelEnvironment.ofSource source (some "page") none >>= fun template =>
    template.render (some labelEnvironment) [] keywords).mapError Failure.family

/-- The brace and the plain text are joined, and what is missing from one source is missing from
both of them together. -/
theorem render_append_label :
    ∃ front back whole, labelEnvironment.ofSource braceSource (some "page") none = .ok front ∧
      labelEnvironment.ofSource labelSource (some "page") none = .ok back ∧
      labelEnvironment.ofSource (braceSource ++ labelSource) (some "page") none = .ok whole ∧
      whole.render (some labelEnvironment) [] labelArguments = .ok "Ada\n\x7b a \x7d\n<B>" ∧
      (∃ failure other,
        front.render (some labelEnvironment) [] (labelArguments.drop 1) = .error failure ∧
        whole.render (some labelEnvironment) [] (labelArguments.drop 1) = .error other ∧
        failure.family = .undefined ∧ failure.SamePlace other) ∧
      ∃ failure other,
        back.render (some labelEnvironment) [] (labelArguments.take 1) = .error failure ∧
        whole.render (some labelEnvironment) [] (labelArguments.take 1) = .error other ∧
        failure.family = .undefined ∧ failure.SameClass other := by
  have accepted : (labelEnvironment.ofSource braceSource (some "page") none).isOk = true := by
    decide +kernel
  have acceptedBehind : (labelEnvironment.ofSource labelSource (some "page") none).isOk = true := by
    decide +kernel
  have apart : ¬ MeetsOpening braceSource.toList labelSource.toList := by
    simp [MeetsOpening, braceSource, labelSource]
  -- The two sources are carried out one by one, and their whole follows them.
  have text : labelPage braceSource labelArguments = .ok "Ada\n\x7b" := by decide +kernel
  have rest : labelPage labelSource labelArguments = .ok " a \x7d\n<B>" := by decide +kernel
  have nobody : labelPage braceSource (labelArguments.drop 1) = .error .undefined := by
    decide +kernel
  have started : labelPage braceSource (labelArguments.take 1) = .ok "Ada\n\x7b" := by
    decide +kernel
  have untitled : labelPage labelSource (labelArguments.take 1) = .error .undefined := by
    decide +kernel
  obtain ⟨front, made⟩ := eq_ok_of_isOk accepted
  obtain ⟨back, madeBehind⟩ := eq_ok_of_isOk acceptedBehind
  obtain ⟨whole, madeWhole, joins⟩ :=
    (render_append labelEnvironment (some "page") none).1 _ _ _ _ made madeBehind apart
  rw [labelPage, made, ok_bind, mapError_eq_ok] at text started
  rw [labelPage, made, ok_bind, mapError_eq_error] at nobody
  rw [labelPage, madeBehind, ok_bind, mapError_eq_ok] at rest
  rw [labelPage, madeBehind, ok_bind, mapError_eq_error] at untitled
  obtain ⟨failure, failed, family⟩ := nobody
  obtain ⟨missing, missed, again⟩ := untitled
  obtain ⟨other, same, place⟩ := (joins (some labelEnvironment) [] _).failsFirst _ failed
  obtain ⟨another, equal, kind⟩ :=
    (joins (some labelEnvironment) [] _).failsBehind _ _ started missed
  exact ⟨front, back, whole, made, madeBehind, madeWhole, (joins _ _ _).texts _ _ text rest,
    ⟨failure, other, failed, same, family, place⟩, missing, another, missed, equal, again, kind⟩

end Stencil
