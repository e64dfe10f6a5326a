import Stencil.Proofs.ExpressionTags
import Stencil.Proofs.MovedReading
import Stencil.Proofs.Relocation
import Stencil.Proofs.RoundTrip

/-! A component tag and a view tag that say the same are one construct. -/

namespace Stencil

/-- Data of a component tag behind its word, and the same data of a view tag without the word. -/
inductive TwinData : List Token → List Token → Prop
  | none : TwinData [] []
  | some {keyword first : Token} {words : List Token} {node : Node}
    (named : keyword.isWord "with") (other : ¬ first.isWord "only")
    (found : Derives (first :: words) (.expression node)) :
    TwinData (keyword :: first :: words) (first :: words)

/-- A component tag without a variant, and a view tag that says the same in tokens of its own. -/
inductive TagTwins : List Token → List Token → Prop
  | tags {keyword again : Token} {called given bare cut words : List Token} {name : Node}
    {only : Bool} (component : keyword.isWord "component") (view : again.isWord "view")
    (found : Derives called (.expression name)) (supplied : TwinData given bare)
    (ended : DerivesOnly cut only)
    -- The second tag may stand elsewhere, so only what its tokens say is compared.
    (same : words.map Token.content = (called ++ bare ++ cut).map Token.content) :
    TagTwins (keyword :: (called ++ given ++ cut)) (again :: words)

/-- Two sources that differ in one block tag alone, which is a component in the first and the view
that says the same in the second. -/
inductive Retagged : String → String → Prop
  | tag {source twin : String} {tokens front back words others : List Token}
    {opening closing : Token} (twins : TagTwins words others) (opened : opening.kind = .blockOpen)
    (closed : closing.kind = .blockClose)
    (cut : tokenize source = .ok (front ++ opening :: (words ++ closing :: back)))
    (twinCut : tokenize twin = .ok tokens)
    (same : tokens.map Token.content =
      (front ++ opening :: (others ++ closing :: back)).map Token.content) :
    Retagged source twin

section

variable {tokens others words : List Token} {node : Node}

/-- Tokens of the same content are the same once they are all at one place. -/
theorem moved_of_content (same : others.map Token.content = tokens.map Token.content)
    (place : Position) :
    others.map (Token.moved fun _ => place) = tokens.map (Token.moved fun _ => place) := by
  -- With all tokens at one place, only their contents are left to differ.
  have apart : Token.moved (fun _ => place) =
      (fun content : TokenKind × String => (⟨content.1, content.2, place⟩ : Token)) ∘
        Token.content := rfl
  rw [apart, ← List.map_map, same, List.map_map]

/-- A block tag is derived at one node only. -/
theorem DerivesTag.unique {other : Node} (tag : DerivesTag words node)
    (again : DerivesTag words other) : node = other := by
  -- Both nodes would be read from the same tokens.
  let closing : Token := ⟨.blockClose, "", .start⟩
  have read := (tag.read (show closing.kind = .blockClose from rfl) []).symm.trans
    (again.read rfl [])
  exact (Prod.mk.inj (Except.ok.inj read)).1

/-- Tokens of the same content are derived from the same tag, at places of their own. -/
theorem DerivesTag.elsewhere (tag : DerivesTag words node)
    (same : others.map Token.content = words.map Token.content) :
    ∃ other, DerivesTag others other ∧ node.unplaced = other.unplaced := by
  let closing : Token := ⟨.blockClose, "", .start⟩
  -- Both tags are read alike once their tokens are at the start.
  have read := (tag.moved fun _ => .start).read (show closing.kind = .blockClose from rfl) []
  have moved := blockTag_moved (fun _ => .start) (others ++ [closing])
  have start : (others ++ [closing]).map (Token.moved fun _ => .start) =
      words.map (Token.moved fun _ => .start) ++ [closing] := by
    rw [List.map_append, moved_of_content same]
    rfl
  rw [start, read] at moved
  obtain ⟨⟨other, left⟩, found, equal⟩ := map_eq_ok.1 (mapError_eq_ok.1 moved.symm)
  obtain ⟨unplaced, none⟩ := Prod.mk.inj equal
  obtain rfl : left = [] := List.map_eq_nil_iff.1 none
  -- As nothing is left of the tokens, all of them are what the other node is derived from.
  obtain ⟨inner, closing, split, _, derived⟩ := blockTag_derived found
  obtain ⟨rfl, _⟩ := List.append_inj' split rfl
  refine ⟨other, derived, ?_⟩
  rw [← Node.moved_start, ← Node.moved_start]
  exact unplaced.symm

/-- A block tag is a component at the place of its keyword. -/
theorem DerivesTag.component_at {keyword : Token} (tag : DerivesTag (keyword :: words) node) :
    ∃ name variant data only, node = .component keyword.position name variant data only := by
  -- Both tags make a component at the place of their keyword.
  generalize same : keyword :: words = tokens at tag
  cases tag with
  | component | view =>
    obtain ⟨rfl, _⟩ := List.cons.inj same
    exact ⟨_, _, _, _, rfl⟩

/-- The data of a component tag and of its twin are of one expression. -/
theorem TwinData.derived {given bare : List Token} (supplied : TwinData given bare) :
    ∃ data, DerivesData given data ∧ DerivesViewData bare data := by
  -- The same phrase stands behind a keyword in one tag and bare in the other.
  cases supplied with
  | none => exact ⟨_, .none, .none⟩
  | some named other found => exact ⟨_, .some named found, .some other found⟩

/-- Two tags that say the same are components of one tree, without a variant, each at the place of
its own keyword. -/
theorem TagTwins.derived {keyword again : Token}
    (twins : TagTwins (keyword :: words) (again :: others)) :
    ∃ name given called data only,
      DerivesTag (keyword :: words) (.component keyword.position name none given only) ∧
      DerivesTag (again :: others) (.component again.position called none data only) ∧
      name.unplaced = called.unplaced ∧ given.map Node.unplaced = data.map Node.unplaced := by
  generalize first : keyword :: words = tokens at twins
  generalize second : again :: others = rivals at twins
  cases twins with
  | @tags _ _ called given bare cut words name only component view found supplied ended same =>
    obtain ⟨rfl, rfl⟩ := List.cons.inj first
    obtain ⟨rfl, rfl⟩ := List.cons.inj second
    obtain ⟨data, behindWord, alone⟩ := supplied.derived
    have tag := DerivesTag.component component found .none behindWord ended
    -- The view at the places of the component is of the very node that the component is of.
    have model := DerivesTag.view view found alone ended
    obtain ⟨other, derived, unplaced⟩ := model.elsewhere
      (show (again :: others).map Token.content = _ by simpa using same)
    obtain ⟨calledOther, variant, dataOther, onlyOther, rfl⟩ := derived.component_at
    simp only [unplaced_component, Node.component.injEq, true_and] at unplaced
    obtain ⟨named, rfl, supplied, rfl⟩ := unplaced
    exact ⟨name, data, calledOther, dataOther, only, by simpa using tag, derived, named, supplied⟩

/-- Tags that say the same are of one node, but for places. -/
theorem TagTwins.nodes (twins : TagTwins words others) :
    ∃ node other, DerivesTag words node ∧ DerivesTag others other ∧
      node.unplaced = other.unplaced := by
  -- Both tags are derived part by part from the same parts. What may differ is where their phrases
  -- stand.
  obtain ⟨keyword, rest, again, more, rfl, rfl⟩ :
      ∃ keyword rest again more, words = keyword :: rest ∧ others = again :: more := by
    cases twins
    exact ⟨_, _, _, _, rfl, rfl⟩
  obtain ⟨name, given, called, data, only, tag, rival, named, supplied⟩ := twins.derived
  exact ⟨_, _, tag, rival, by rw [unplaced_component, unplaced_component, named, supplied]⟩

/-- What opens a block tag stands only at the start of a node. -/
theorem DerivesNode.opens_first (found : DerivesNode words node) :
    ∀ token ∈ words.tail, token.kind ≠ .blockOpen := by
  -- Behind the opener there are operands and a closer, and none of them opens a block.
  have operand {tokens : List Token} (each : ∀ token ∈ tokens, token.kind ∈ operandKinds) :
      ∀ token ∈ tokens, token.kind ≠ .blockOpen := fun token member =>
    ne_of_mem_of_not_mem (each token member) (by decide)
  cases found with
  | data => simp
  | output _ found closed =>
    exact List.forall_mem_append.2 ⟨operand found.operands, by simp [closed]⟩
  | block _ tag closed =>
    exact List.forall_mem_append.2 ⟨operand tag.operands, by simp [closed]⟩

/-- A block tag may be replaced in a body by any other one of the same node. -/
theorem DerivesBody.retagged {front back twin : List Token} {opening closing : Token}
    {nodes : List Node}
    (body : DerivesBody (front ++ opening :: (words ++ closing :: back)) nodes)
    (tag : DerivesTag words node) (rival : DerivesTag twin node)
    (opened : opening.kind = .blockOpen) (closed : closing.kind = .blockClose) :
    DerivesBody (front ++ opening :: (twin ++ closing :: back)) nodes := by
  generalize shape : front ++ opening :: (words ++ closing :: back) = tokens at body
  -- The induction is on the nodes, up to the one whose tag is replaced.
  induction body generalizing front with
  | ended =>
    have count := congrArg List.length shape
    simp only [List.length_append, List.length_cons, List.length_nil] at count
    omega
  | @node first behind head nodes found rest ih =>
    rcases front with _ | ⟨start, front⟩
    · -- The tag stands first, and what is read of it is the node that it is derived from.
      have whole := DerivesBody.node found rest
      rw [← shape] at whole
      obtain ⟨other, others, same, after, framed⟩ :=
        DerivesBody.tag whole .block opened tag.operands closed
      obtain ⟨rfl, rfl⟩ := List.cons.inj same
      obtain rfl := (framed.block_inside opened).unique tag
      have again := DerivesBody.node (.block opened rival closed) after
      simpa using again
    · -- Another node stands first, and the tag is behind it.
      rcases List.append_eq_append_iff.1 shape with ⟨more, split, left⟩ | ⟨more, split, left⟩
      · cases more with
        | nil =>
          have again := @ih [] left
          rw [List.append_nil] at split
          rw [← split]
          exact .node found again
        | cons token more =>
          -- Or else the tag would be opened inside that node.
          obtain ⟨rfl, _⟩ := List.cons.inj left
          refine absurd opened (found.opens_first opening ?_)
          simp [split]
      · rw [split, List.append_assoc]
        exact .node found (ih left.symm)

end

section

variable {source twin : String}

/-- A tag that is replaced by one of the same node leaves the tree as it is, but for places. -/
theorem treeOf?_retagged {tokens rivals front back words others : List Token}
    {opening closing : Token} {node other bare : Node} (tag : DerivesTag words node)
    (rival : DerivesTag others other) (unplaced : node.unplaced = other.unplaced)
    (opened : opening.kind = .blockOpen) (closed : closing.kind = .blockClose)
    (cut : tokenize source = .ok tokens) (twinCut : tokenize twin = .ok rivals)
    (same : tokens.map Token.content =
      (front ++ opening :: (words ++ closing :: back)).map Token.content)
    (twinSame : rivals.map Token.content =
      (front ++ opening :: (others ++ closing :: back)).map Token.content)
    (read : treeOf? source = some bare) : treeOf? twin = some bare := by
  obtain ⟨tree, built, rfl⟩ := (@treeOf?_eq_some _ none none _).1 read
  obtain ⟨_, nodes, rfl, body⟩ := readTemplate_eq_ok.1 built
  rw [← (tokenize_eq_ok.1 cut).2] at body
  -- With all tokens at the start, only the words of the tag differ, and both are of one node.
  have moved := body.moved fun _ => .start
  rw [moved_of_content same, List.map_append, List.map_cons, List.map_append, List.map_cons]
    at moved
  have rivalMoved := rival.moved fun _ => .start
  rw [← Node.moved_of_unplaced unplaced] at rivalMoved
  have retagged := moved.retagged (tag.moved fun _ => .start) rivalMoved opened closed
  rw [← List.map_cons, ← List.map_append, ← List.map_cons, ← List.map_append,
    ← moved_of_content twinSame] at retagged
  -- The body with the other tag is what the other source is read as, at the start.
  have made := (DerivesTemplate.template retagged).read
  rw [ofTokens_moved _ rfl] at made
  obtain ⟨again, reread, placed⟩ := map_eq_ok.1 (mapError_eq_ok.1 made)
  refine (@treeOf?_eq_some _ none none _).2 ⟨again, readTemplate_tokens.2 ⟨_, twinCut, reread⟩, ?_⟩
  rw [← Node.moved_start, placed, ← Node.moved_start, Node.moved, Node.allMoved_eq]
  rfl

/-- Sources that differ in one tag and its twin are read as one tree, but for places. -/
theorem Retagged.treeOf?_eq (retagged : Retagged source twin) : treeOf? source = treeOf? twin := by
  cases retagged with
  | tag twins opened closed cut twinCut same =>
    obtain ⟨node, other, tag, rival, unplaced⟩ := twins.nodes
    -- What either source is read as, the other one is.
    exact Option.ext fun bare => ⟨
      treeOf?_retagged tag rival unplaced opened closed cut twinCut rfl same,
      treeOf?_retagged rival tag unplaced.symm opened closed twinCut cut same rfl⟩

/-- Sources are read as one tree, but for places, if any number of tags are replaced by their twins
between them, either way. -/
theorem treeOf?_of_retagged (retagged : Relation.EqvGen Retagged source twin) :
    treeOf? source = treeOf? twin := by
  -- One exchange leaves the tree as it is, and so does any number of them, in either direction.
  induction retagged with
  | rel _ _ retagged => exact retagged.treeOf?_eq
  | refl => rfl
  | symm _ _ _ ih => exact ih.symm
  | trans _ _ _ _ _ first second => exact first.trans second

end

/-- Two loaders have the same templates under each path, but for tags that are replaced by their
twins. -/
def RetaggedLoader (loader other : Option Loader) (environment : Environment) : Prop :=
  ∀ path, Alike Eq
    (fun source twin => source.file = twin.file ∧ Relation.EqvGen Retagged source.text twin.text)
    ((environment.loading loader).load path) ((environment.loading other).load path)

/-- Loaders with the same templates but for tags have sources of the same trees. -/
theorem RetaggedLoader.treeAt?_eq {loader other : Option Loader} {environment : Environment}
    (loads : RetaggedLoader loader other environment) (path : String) :
    (environment.loading loader).treeAt? path = (environment.loading other).treeAt? path := by
  -- Under each address both loaders fail alike or give sources that are read alike.
  have alike := loads path
  unfold Environment.treeAt?
  generalize (environment.loading loader).load path = first at alike ⊢
  generalize (environment.loading other).load path = second at alike ⊢
  cases alike with
  | failed => rfl
  | found pair => simp only [Except.toOption, Option.map_some, pair.1, treeOf?_of_retagged pair.2]

/-- A written node without steps is a component that is refused for its data. -/
theorem nodeSteps_invalid {site : Site} {node : Node} (written : node.IsStatement)
    {failure : Failure} (failed : site.nodeSteps node = .error failure) :
    ∃ fault, failure = .diagnostic (.invalidData fault) := by
  -- The steps of a written node fail just if the compiler refuses it, and it refuses only data.
  have steps := nodeSteps_written site written
  rw [failed] at steps
  exact Node.refusal?_invalid steps

/-- A component tag and a view tag that say the same are one construct: they are read as components
that are the same but for places, and these have the same steps where their keywords stand on one
line, or are refused for the same data. Where one stands for the other in a template, in any of
those that this loads, or in many of them, the template is made as before and gives the same
texts. -/
theorem component_tag_as_view :
    (∀ {keyword again : Token} {words others : List Token},
      TagTwins (keyword :: words) (again :: others) →
      ∃ name given called data only,
        let node := Node.component keyword.position name none given only
        let twin := Node.component again.position called none data only
        node.unplaced = twin.unplaced ∧
        (∀ closing rest, closing.kind = .blockClose →
          blockTag (keyword :: (words ++ closing :: rest)) = .ok (node, rest) ∧
          blockTag (again :: (others ++ closing :: rest)) = .ok (twin, rest)) ∧
        (keyword.position.line = again.position.line → ∀ site : Site,
          site.nodeSteps node = site.nodeSteps twin ∧
          ∀ failure, site.nodeSteps node = .error failure →
            ∃ fault, failure = .diagnostic (.invalidData fault))) ∧
    ∀ {source twin : String}, Relation.EqvGen Retagged source twin →
      ∀ (maker : Environment) (name file : Option String),
        ((∃ template, maker.ofSource source name file = .ok template) ↔
          ∃ copy, maker.ofSource twin name file = .ok copy) ∧
        ∀ template copy, maker.ofSource source name file = .ok template →
          maker.ofSource twin name file = .ok copy →
          ∀ (environment : Environment) {loader other : Option Loader},
            RetaggedLoader loader other environment → ∀ arguments keywords text,
              template.render (some (environment.loading loader)) arguments keywords = .ok text ↔
                copy.render (some (environment.loading other)) arguments keywords = .ok text := by
  refine ⟨fun {keyword again words others} twins => ?_,
    fun {source twin} retagged maker name file => ?_⟩
  · obtain ⟨name, given, called, data, only, tag, rival, named, supplied⟩ := twins.derived
    have same : (Node.component keyword.position name none given only).unplaced =
        (Node.component again.position called none data only).unplaced := by
      rw [unplaced_component, unplaced_component, named, supplied]
    refine ⟨name, given, called, data, only, same, fun closing rest closed =>
      ⟨tag.read closed rest, rival.read closed rest⟩, fun line site => ?_⟩
    exact ⟨nodeSteps_unplaced site tag.written rival.written same line,
      fun failure => nodeSteps_invalid tag.written⟩
  · have trees := treeOf?_of_retagged retagged
    -- No loader is needed for a template to be made, so that any two that are alike will do.
    have alone (path : String) : (maker.loading none).treeAt? path =
        (maker.loading none).treeAt? path := rfl
    refine ⟨⟨fun ⟨_, made⟩ => ?_, fun ⟨_, made⟩ => ?_⟩, ?_⟩
    · obtain ⟨copy, copied, _⟩ := render_relocated alone trees maker made
      exact ⟨copy, copied⟩
    · obtain ⟨copy, copied, _⟩ := render_relocated alone trees.symm maker made
      exact ⟨copy, copied⟩
    · intro template copy made copied environment loader other loads arguments keywords text
      -- Each of the two renders follows the other one.
      obtain ⟨_, again, follows⟩ := render_relocated loads.treeAt?_eq trees maker made
      obtain rfl := Except.ok.inj (copied.symm.trans again)
      obtain ⟨_, first, precedes⟩ := render_relocated (fun path => (loads.treeAt?_eq path).symm)
        trees.symm maker copied
      obtain rfl := Except.ok.inj (made.symm.trans first)
      exact ⟨follows arguments keywords text, precedes arguments keywords text⟩

/-- A component that is cut off from its caller, and prints what it is given. -/
def cardLoader : Option Loader :=
  some (.held [("Card/card.html", "\x7b\x7b of \x7d\x7d")])

/-- A page that invokes it with a component tag. -/
def cardPage : String :=
  "\x7b% component 'Card' with \x7bof: name\x7d only %\x7d"

/-- The page with a view tag, whose data stands on another line. -/
def cardView : String :=
  "\x7b% view 'Card'\n  \x7bof: name\x7d only %\x7d"

/-- The words of the component tag. -/
def cardWords : List Token :=
  [⟨.name, "component", ⟨1, 3⟩⟩, ⟨.string, "Card", ⟨1, 13⟩⟩, ⟨.name, "with", ⟨1, 20⟩⟩,
   ⟨.braceOpen, "\x7b", ⟨1, 25⟩⟩, ⟨.name, "of", ⟨1, 26⟩⟩, ⟨.colon, ":", ⟨1, 28⟩⟩,
   ⟨.name, "name", ⟨1, 30⟩⟩, ⟨.braceClose, "\x7d", ⟨1, 34⟩⟩, ⟨.name, "only", ⟨1, 36⟩⟩]

/-- The words of the view tag. -/
def viewWords : List Token :=
  [⟨.name, "view", ⟨1, 3⟩⟩, ⟨.string, "Card", ⟨1, 8⟩⟩, ⟨.braceOpen, "\x7b", ⟨2, 2⟩⟩,
   ⟨.name, "of", ⟨2, 3⟩⟩, ⟨.colon, ":", ⟨2, 5⟩⟩, ⟨.name, "name", ⟨2, 7⟩⟩,
   ⟨.braceClose, "\x7d", ⟨2, 11⟩⟩, ⟨.name, "only", ⟨2, 13⟩⟩]

/-- Both tags say the same. -/
theorem cardTwins : TagTwins cardWords viewWords := by
  -- The two tags are given part by part: the name, the data behind its keyword, the flag at the
  -- end.
  have data : Derives [⟨.braceOpen, "\x7b", ⟨1, 25⟩⟩, ⟨.name, "of", ⟨1, 26⟩⟩,
      ⟨.colon, ":", ⟨1, 28⟩⟩, ⟨.name, "name", ⟨1, 30⟩⟩, ⟨.braceClose, "\x7d", ⟨1, 34⟩⟩]
      (.expression (.hash ⟨1, 25⟩ [.constant ⟨1, 26⟩ (.text "of")] [.name ⟨1, 30⟩ "name"])) :=
    .primary (@Derives.hash _ _ [⟨.name, "of", ⟨1, 26⟩⟩, ⟨.colon, ":", ⟨1, 28⟩⟩,
      ⟨.name, "name", ⟨1, 30⟩⟩] _ _ rfl
      (.lastPair (.word (.inl rfl)) rfl (.primary (.name rfl (by decide)))) rfl)
  exact .tags (show Token.isWord ⟨.name, "component", ⟨1, 3⟩⟩ "component" by decide) (by decide)
    (.primary (@Derives.string ⟨.string, "Card", ⟨1, 13⟩⟩ rfl))
    (.some (show Token.isWord ⟨.name, "with", ⟨1, 20⟩⟩ "with" by decide) (by decide) data)
    (.present (show Token.isWord ⟨.name, "only", ⟨1, 36⟩⟩ "only" by decide)) (by decide)

/-- The page is rendered to the same text with either tag, as both have the same steps. -/
theorem component_tag_as_view_card :
    let environment := Environment.default.loading cardLoader
    (∃ node twin, blockTag (cardWords ++ [⟨.blockClose, "%\x7d", ⟨1, 41⟩⟩]) = .ok (node, []) ∧
      blockTag (viewWords ++ [⟨.blockClose, "%\x7d", ⟨1, 41⟩⟩]) = .ok (twin, []) ∧
      ∀ site : Site, site.nodeSteps node = site.nodeSteps twin) ∧
    ∃ template copy, environment.ofSource cardPage (some "page") none = .ok template ∧
      environment.ofSource cardView (some "page") none = .ok copy ∧
      template.render (some environment) [] [(.text "name", .text "A")] = .ok "A" ∧
      copy.render (some environment) [] [(.text "name", .text "A")] = .ok "A" := by
  -- The sources are evaluated to their tokens, where the two tags are the twins above. The text of
  -- the first page is evaluated, the one of the second follows.
  intro environment
  have cut : tokenize cardPage = .ok ([] ++ ⟨.blockOpen, "\x7b%", ⟨1, 0⟩⟩ :: (cardWords ++
      ⟨.blockClose, "%\x7d", ⟨1, 41⟩⟩ :: [⟨.endOfInput, "", ⟨1, 43⟩⟩])) := by
    cbv
  have twinCut : tokenize cardView = .ok ([⟨.blockOpen, "\x7b%", ⟨1, 0⟩⟩] ++ viewWords ++
      [⟨.blockClose, "%\x7d", ⟨2, 18⟩⟩, ⟨.endOfInput, "", ⟨2, 20⟩⟩]) := by
    cbv
  have retagged : Retagged cardPage cardView :=
    .tag cardTwins rfl rfl cut twinCut (by decide)
  have loads : RetaggedLoader cardLoader cardLoader Environment.default := fun path =>
    .refl (fun _ => rfl) (fun _ => ⟨rfl, .refl _⟩) _
  have rendered : (environment.ofSource cardPage (some "page") none >>= fun template =>
      template.render (some environment) [] [(.text "name", .text "A")]) = .ok "A" := by
    decide +kernel
  obtain ⟨alike, replaced⟩ := component_tag_as_view
  refine ⟨?_, ?_⟩
  · obtain ⟨_, _, _, _, _, _, read, steps⟩ := alike cardTwins
    obtain ⟨first, second⟩ := read ⟨.blockClose, "%\x7d", ⟨1, 41⟩⟩ [] rfl
    exact ⟨_, _, first, second, fun site => (steps rfl site).1⟩
  · obtain ⟨template, made, text⟩ := bind_eq_ok.1 rendered
    obtain ⟨both, same⟩ := replaced (.rel _ _ retagged) environment (some "page") none
    obtain ⟨copy, copied⟩ := both.1 ⟨template, made⟩
    exact ⟨template, copy, made, copied, text,
      (same template copy made copied _ loads _ _ _).1 text⟩

end Stencil
