import Stencil.Proofs.Blur
import Stencil.Proofs.CompiledSources

/-! Sources that are read as one tree, wherever its nodes stand, are compiled and rendered alike. -/

namespace Stencil

section

variable {move : Position → Position} (site : Site)

/-- The keys of a hash have the same terms at any places. -/
theorem termsKeys_moved {keys : List Node} (written : ∀ key ∈ keys, key.IsKey) :
    site.terms (Node.allMoved move keys) = site.terms keys := by
  induction keys with
  | nil => rfl
  | cons key keys ih =>
    have tail := ih fun other member => written other (by simp [member])
    -- A key is a constant, whose term is its value.
    have head : site.term (key.moved move) = site.term key := by
      have named := written key (by simp)
      unfold Node.IsKey at named
      split at named <;> first | rfl | exact named.elim
    simp only [Node.allMoved, Site.terms, head, tail]

mutual

/-- A written expression has the same term at any place. -/
theorem term_moved : ∀ {node : Node}, node.IsExpression →
    site.term (node.moved move) = site.term node
  -- Together with the statement about lists, by recursion on the phrase. A term holds no places.
  | .constant _ _, _ | .name _ _, _ => rfl
  | .member _ object _, written => by
    simp only [Node.moved, Site.term, @term_moved object written]
  | .list _ items, written => by
    simp only [Node.moved, Site.term, @terms_moved items written]
  | .hash _ keys values, written => by
    obtain ⟨keysWritten, valuesWritten, _⟩ := written
    simp only [Node.moved, Site.term, termsKeys_moved site keysWritten,
      @terms_moved values valuesWritten]

/-- Written expressions have the same terms at any places. -/
theorem terms_moved : ∀ {nodes : List Node}, Node.AreExpressions nodes →
    site.terms (Node.allMoved move nodes) = site.terms nodes
  -- The list is walked in step with the tree above.
  | [], _ => rfl
  | node :: nodes, ⟨head, tail⟩ => by
    simp only [Node.allMoved, Site.terms, term_moved head, terms_moved tail]

end

/-- The steps of a written component do not depend on where its name and its data stand. -/
theorem componentSteps_moved {name : Node} (nameWritten : name.IsExpression)
    {data : Option Node} (written : ∀ node ∈ data, node.IsExpression) (line : Int)
    (variant : Option String) (only : Bool) :
    site.componentSteps line (name.moved move) variant (data.map (Node.moved move)) only =
      site.componentSteps line name variant data only := by
  have dataTerms : site.dataTerms (data.map (Node.moved move)) = site.dataTerms data := by
    cases data with
    | none => rfl
    | some given => simp only [Option.map_some, Site.dataTerms, term_moved site (written given rfl)]
  have base : site.baseTerm (data.map (Node.moved move)) only = site.baseTerm data only := by
    simp only [Site.baseTerm, dataTerms]
  have styling (word : String) : site.styling word line (data.map (Node.moved move)) =
      site.styling word line data := by
    simp only [Site.styling, stylingOf_moved]
  have knownName := @Node.moved_knownName move name
  -- A constant text names the template at once, and any other name waits for the render.
  cases known : name.knownName? with
  | some word =>
    rw [componentSteps_known site line (knownName.trans known),
      componentSteps_known site line known, base]
    refine congrArg (site.baseTerm data only >>= ·) (funext fun term => ?_)
    simp only [Site.knownSteps, styling]
  | none =>
    rw [componentSteps_deferred site line (knownName.trans known),
      componentSteps_deferred site line known, base]
    refine congrArg (site.baseTerm data only >>= ·) (funext fun term => ?_)
    simp only [Site.deferredSteps, Node.moved_describe, styling, term_moved site nameWritten]

/-- The steps of a written node are the same at any place on its line. -/
theorem nodeSteps_moved {node : Node} (written : node.IsStatement)
    (line : (move node.position).line = node.position.line) :
    site.nodeSteps (node.moved move) = site.nodeSteps node := by
  -- Of the place of a node only its line comes into the steps.
  cases node with
  | data => rfl
  | output position expression =>
    have same : (move position).line = position.line := line
    rw [Node.moved, Site.nodeSteps, Site.nodeSteps, term_moved site written, same]
  | component position name variant data only =>
    have same : (move position).line = position.line := line
    rw [Node.moved_component, Site.nodeSteps, Site.nodeSteps, same,
      componentSteps_moved site written.1 written.2]
  | _ => exact written.elim

/-- Written nodes that are the same but for their places have the same steps if they stand on one
line. -/
theorem nodeSteps_unplaced {node other : Node} (written : node.IsStatement)
    (otherWritten : other.IsStatement) (same : node.unplaced = other.unplaced)
    (line : node.line = other.line) : site.nodeSteps node = site.nodeSteps other := by
  -- Move both nodes to one place, where they are equal.
  rw [← @nodeSteps_moved (fun _ => node.position) site node written rfl,
    Node.moved_of_unplaced same, nodeSteps_moved site otherWritten line]

end

/-- The tree that a source is read as, without the places of its nodes. -/
def treeOf? (source : String) : Option Node :=
  (readTemplate none none source).toOption.map Node.unplaced

/-- The sources of an environment as their trees, each with the file that it comes from. -/
def Environment.treeAt? (environment : Environment) (path : String) :
    Option (Option String × Option Node) :=
  (environment.load path).toOption.map fun source => (source.file, treeOf? source.text)

/-- An environment that finds its templates with another loader. -/
def Environment.loading (environment : Environment) (loader : Option Loader) : Environment :=
  { environment with loader := loader }

/-- Two scripts that are the same but for the places of their nodes, and for what they are read
from. -/
structure Relocated (script twin : Script) : Prop where
  site : script.site = twin.site
  strict : script.strict = twin.strict
  tree : script.tree.unplaced = twin.tree.unplaced

section

variable {source twin : String} {name file : Option String}

/-- A source has a tree without places if it is read, under whatever names. -/
theorem treeOf?_eq_some {bare : Node} : treeOf? source = some bare ↔
    ∃ tree, readTemplate name file source = .ok tree ∧ tree.unplaced = bare := by
  -- Names and files come only into reports, so any of them can be taken for the reading.
  have named (tree : Node) : (readTemplate none none source).toOption = some tree ↔
      readTemplate name file source = .ok tree := by
    rw [readTemplate_tokens, ← @readTemplate_tokens none none]
    cases readTemplate none none source <;> simp [Except.toOption]
  simp only [treeOf?, Option.map_eq_some_iff, named]

/-- What is read from a source is read from any other source of one tree, at places of its own. -/
theorem readTemplate_relocated (same : treeOf? source = treeOf? twin) {tree : Node}
    (read : readTemplate name file source = .ok tree) :
    ∃ other, readTemplate name file twin = .ok other ∧ tree.unplaced = other.unplaced := by
  -- The tree without its places is the same, and it is there just if the source is read.
  obtain ⟨other, again, equal⟩ :=
    treeOf?_eq_some.1 (same.symm.trans (treeOf?_eq_some.2 ⟨tree, read, rfl⟩))
  exact ⟨other, again, equal.symm⟩

end

section

variable {script twin : Script}

/-- Scripts that are the same but for places have the same nodes one by one, but for places. -/
theorem Relocated.nodes (kin : Relocated script twin) :
    List.Forall₂ (fun node rival => node.unplaced = rival.unplaced) script.tree.body
      twin.tree.body := by
  -- Without places the two trees are equal, so their bodies correspond node by node.
  have same := congrArg Node.body kin.tree
  rw [← Node.moved_start, ← Node.moved_start, Node.moved_body, Node.moved_body] at same
  simp only [← List.forall₂_eq_eq_eq, List.forall₂_map_left_iff, List.forall₂_map_right_iff,
    Node.moved_start] at same
  exact same

/-- Scripts that are the same but for places are made into templates together. -/
theorem Relocated.compiled (kin : Relocated script twin)
    (written : ∀ node ∈ script.tree.body, node.IsStatement)
    (twinWritten : ∀ node ∈ twin.tree.body, node.IsStatement) {template : Template}
    (made : template.IsOf script) : ∃ copy : Template, copy.IsOf twin := by
  obtain ⟨names, fit⟩ := (isOf_written written).1 ⟨template, made⟩
  refine (isOf_written twinWritten).2 ⟨kin.site ▸ names, fun rival member => ?_⟩
  -- Every node of the second script is one of the first script, somewhere else.
  obtain ⟨node, found, same⟩ : ∃ node ∈ script.tree.body, node.unplaced = rival.unplaced := by
    have nodes := kin.nodes
    obtain ⟨⟨index, below⟩, rfl⟩ := List.get_of_mem member
    have within : index < script.tree.body.length := nodes.length_eq ▸ below
    exact ⟨_, List.get_mem _ ⟨index, within⟩, nodes.get within below⟩
  have again := fit node found
  rwa [← Node.moved_isFit (fun _ => .start), Node.moved_start, same, ← Node.moved_start,
    Node.moved_isFit] at again

end

section

variable {environment : Environment} {loader other : Option Loader}

/-- A script is loaded wherever the same tree is. -/
theorem script_relocated (same : ∀ path,
      (environment.loading loader).treeAt? path = (environment.loading other).treeAt? path)
    {path : String} {script : Script}
    (loaded : (environment.loading loader).script path = .ok script) :
    ∃ twin, (environment.loading other).script path = .ok twin ∧ Relocated script twin := by
  obtain ⟨source, tree, template, found, read, rfl, made⟩ := Environment.script_eq_ok.1 loaded
  have trees := same path
  simp only [Environment.treeAt?, found, Except.toOption, Option.map_some] at trees
  -- The other loader has a source of the same tree there, from the same file.
  cases again : (environment.loading other).load path with
  | error failure => simp [again] at trees
  | ok copy =>
    simp only [again, Option.map_some, Option.some.injEq, Prod.mk.injEq] at trees
    obtain ⟨file, equal⟩ := trees
    obtain ⟨twinTree, reread, unplaced⟩ := readTemplate_relocated equal read
    have kin : Relocated
        ((environment.loading loader).scriptOf tree (some path) source.file (some source.text))
        ((environment.loading other).scriptOf twinTree (some path) copy.file (some copy.text)) :=
      ⟨congrArg (environment.site (some path)) file, rfl, unplaced⟩
    rw [file] at reread
    obtain ⟨twinTemplate, twinMade⟩ :=
      kin.compiled (readTemplate_written read) (readTemplate_written reread) made
    exact ⟨_, Environment.script_eq_ok.2 ⟨copy, twinTree, twinTemplate, again, reread, rfl,
      twinMade⟩, kin⟩

/-- Where one render succeeds, so does the other one, if the trees that are loaded are the same but
for their places. -/
def Correspondence.relocation (same : ∀ path,
      (environment.loading loader).treeAt? path = (environment.loading other).treeAt? path) :
    Correspondence (environment.loading loader) (environment.loading other) where
  -- Reports tell places, so only successes are compared.
  compare := .succeeds
  Near first second := first.withoutPlace = second.withoutPlace
  Kin := Relocated
  levels near := Blur.places.levels near
  atLine near line := Blur.places.atLine near line
  child near script twin kin := by
    rw [Script.componentName, Script.componentName, kin.site]
    exact Blur.places.child near _ _ _
  lookup near script twin kin context word value found := by
    rw [kin.strict] at found
    obtain ⟨again, read, rfl⟩ := (Blur.places.lookup near twin.strict context word).result found
    exact ⟨value, read, rfl⟩
  summon near strict rival site name variant word script summoned := by
    simp only [Surroundings.summon, mapError_eq_ok] at summoned ⊢
    exact script_relocated same summoned
  styling near site data word styling styled := by
    obtain ⟨again, read, rfl⟩ := (Blur.places.styling near site data word).result styled
    exact ⟨styling, read, rfl⟩
  -- The guard refuses both, and a refusal is no success.
  tooDeep _ _ _ _ _ refused := nomatch refused
  located near source rival _ _ holds text located := by
    obtain ⟨other, found, same⟩ := holds text (mapError_eq_ok.1 located)
    exact ⟨other, mapError_eq_ok.2 found, same⟩

/-- Scripts that are the same but for places have the same texts, however many levels there are. -/
theorem renders_relocated (same : ∀ path,
      (environment.loading loader).treeAt? path = (environment.loading other).treeAt? path)
    (bound : Nat) : (Correspondence.relocation same).Renders bound := by
  refine (Correspondence.relocation same).renders_of
    (fun {first second script twin} near kin fewer context => ?_) bound
  have reads : (Correspondence.relocation same).ReadsAlike script twin := fun _ _ near =>
    (Correspondence.relocation same).lookup near kin
  -- The lines of the nodes make no difference to how near the frames are.
  have onLines (line rival : Int) :
      (first.atLine line).withoutPlace = (second.atLine rival).withoutPlace := near
  exact fewer.bodyText_alike script twin kin.site reads context
    (kin.nodes.imp fun node rival alike => ⟨alike, onLines _ _⟩)

/-- Sources of one tree are made into templates together, and where one of these is rendered to a
text, so is the other one, even with a loader that has sources of the same trees. -/
theorem render_relocated (same : ∀ path,
      (environment.loading loader).treeAt? path = (environment.loading other).treeAt? path)
    {source twin : String} (alike : treeOf? source = treeOf? twin) (maker : Environment)
    {name file : Option String} {template : Template}
    (made : maker.ofSource source name file = .ok template) :
    ∃ copy, maker.ofSource twin name file = .ok copy ∧ ∀ arguments keywords text,
      template.render (some (environment.loading loader)) arguments keywords = .ok text →
        copy.render (some (environment.loading other)) arguments keywords = .ok text := by
  obtain ⟨tree, read, compiled⟩ := ofSource_eq_ok.1 made
  obtain ⟨again, reread, unplaced⟩ := readTemplate_relocated alike read
  have kin : Relocated (maker.scriptOf tree name file (some source))
      (maker.scriptOf again name file (some twin)) := ⟨rfl, rfl, unplaced⟩
  obtain ⟨copy, copied⟩ :=
    kin.compiled (readTemplate_written read) (readTemplate_written reread) compiled
  refine ⟨copy, ofSource_eq_ok.2 ⟨again, reread, copied⟩, fun arguments keywords text => ?_⟩
  rcases render_refused (some (environment.loading loader)) arguments keywords with
    ⟨accident, refused⟩ | ⟨_, context, ⟨⟩, named, rooted⟩
  · rw [refused template _ rfl]
    exact nofun
  · rw [render_eq_text compiled named rooted, render_eq_text copied named
      (show rootContext (environment.loading other).globals arguments keywords = .ok context
        from rooted)]
    intro rendered
    -- The root frames differ in the sources that they know.
    have near : (Frame.root name file (some source) environment.maxDepth).withoutPlace =
        (Frame.root name file (some twin) environment.maxDepth).withoutPlace := rfl
    obtain ⟨_, found, rfl⟩ := renders_relocated same _ _ _ near (Nat.lt_succ_self _) _ _ kin
      context text rendered
    exact found

end

end Stencil
