import Stencil.Proofs.Activation
import Stencil.Proofs.Variables

/-! A template whose components are cut off is rendered alike wherever its own variables agree. -/

namespace Stencil

/-- A failure without the close name that is suggested for an undefined variable. -/
def Failure.withoutHint : Failure → Failure
  | .diagnostic (.undefined fault) => .diagnostic (.undefined { fault with closest := none })
  | failure => failure

/-- Two failures are of one kind if they differ at most in the close name that is suggested. -/
def Failure.SameKind (failure other : Failure) : Prop :=
  failure.withoutHint = other.withoutHint

/-- A failure is of its own kind. -/
theorem Failure.SameKind.refl (failure : Failure) : failure.SameKind failure :=
  rfl

/-- An outcome is alike to itself, failures of their own kind included. -/
theorem sameKind_self {Meaning : Type} (outcome : Except Failure Meaning) :
    Alike Failure.SameKind Eq outcome outcome :=
  -- Related to itself in either case.
  .refl Failure.SameKind.refl (fun _ => rfl) outcome

/-- Failures of one kind have one code. -/
theorem Failure.SameKind.code {failure other : Failure} (kind : failure.SameKind other) :
    failure.code? = other.code? := by
  -- The suggestion is no part of the code.
  have hintless (failure : Failure) : failure.withoutHint.code? = failure.code? := by
    unfold Failure.withoutHint
    split <;> rfl
  rw [← hintless failure, kind, hintless other]

/-- Failures of one kind leave a template as failures of one kind. -/
theorem Failure.SameKind.located {failure other : Failure} (kind : failure.SameKind other)
    (frame : Frame) (source : Option String) :
    (frame.locate source failure).SameKind (frame.locate source other) := by
  cases failure with
  | mishap accident =>
    -- A mishap has no suggestion, so that the other one is the same mishap.
    cases other with
    | mishap same =>
      have equal : Failure.mishap accident = .mishap same := kind
      rw [equal]
      exact .refl _
    | diagnostic report => cases report <;> cases kind
  | diagnostic report =>
    cases other with
    | mishap accident => cases report <;> cases kind
    | diagnostic report => exact kind

/-- All keys of a dictionary are texts. -/
def Dict.IsTextual (entries : Dict) : Prop :=
  ∀ entry ∈ entries, ∃ word, entry.1 = .text word

/-- A close name can be searched for among keys that are texts. -/
theorem Dict.IsTextual.nameTexts {entries : Dict} (textual : Dict.IsTextual entries) :
    ∃ names, Stencil.nameTexts (entries.map (·.1)) = .ok names := by
  -- Induction on the entries: each key is its own text.
  induction entries with
  | nil => exact ⟨[], rfl⟩
  | cons entry entries ih =>
    obtain ⟨word, same⟩ := textual entry (by simp)
    obtain ⟨names, found⟩ := ih fun other member => textual other (by simp [member])
    exact ⟨word :: names, by simp [Stencil.nameTexts, same, found]⟩

/-- A variable on which two contexts agree is looked up alike in both. -/
theorem lookupIn_sameKind {first second : Dict} (firstTextual : Dict.IsTextual first)
    (secondTextual : Dict.IsTextual second) {word : String}
    (agree : Dict.named? first word = Dict.named? second word) (strict : Bool) (frame : Frame) :
    Alike Failure.SameKind Eq (lookupIn strict frame first word)
      (lookupIn strict frame second word) := by
  cases strict with
  | false => exact .found (by rw [lookupLenient, lookupLenient, agree])
  | true =>
    obtain ⟨names, found⟩ := firstTextual.nameTexts
    obtain ⟨others, among⟩ := secondTextual.nameTexts
    simp only [lookupIn, if_true, lookupStrict, agree, undefinedIn, undefinedVariable, found, among]
    -- Where the variable is missing, the names at hand decide only what is suggested.
    cases Dict.named? second word with
    | some value => exact .found rfl
    | none => exact .failed rfl

namespace Activation

/-- The activation with another context. -/
def inContext (active : Activation) (context : Dict) : Activation :=
  { active with context := context }

/-- An activation cannot tell its context from another one: its components are cut off, and the two
agree on the variables that it reads by itself. -/
structure BlindTo (active : Activation) (other : Dict) : Prop where
  -- Other keys would be told by a missing name in strict mode.
  textual : Dict.IsTextual active.context
  otherTextual : Dict.IsTextual other
  -- A tag that is not cut off passes all of the context on.
  cutOff : ∀ place name variant data only,
    .component place name variant data only ∈ active.script.tree.body →
      active.script.site.cutsOff only = true
  agree : ∀ node ∈ active.script.tree.body, ∀ word ∈ node.variables,
    Dict.named? active.context word = Dict.named? other word

section

variable {environment : Environment} {active last : Activation} {other : Dict} {node : Node}
  {callers : Callers}

/-- The other context cannot be told from the first one either. -/
theorem BlindTo.symm (blind : active.BlindTo other) :
    (active.inContext other).BlindTo active.context :=
  -- The two contexts change places, and what they agree on stays the same.
  ⟨blind.otherTextual, blind.textual, blind.cutOff,
    fun node member word reads => (blind.agree node member word reads).symm⟩

/-- A variable of a node is looked up alike. -/
theorem BlindTo.lookup (blind : active.BlindTo other) (member : node ∈ active.script.tree.body)
    (frame : Frame) : ∀ word ∈ node.variables, Alike Failure.SameKind Eq
      (lookupIn active.script.strict frame active.context word)
      (lookupIn active.script.strict frame other word) :=
  -- The contexts agree on the variables of the node, and both have texts for keys.
  fun word reads => lookupIn_sameKind blind.textual blind.otherTextual
    (blind.agree node member word reads) active.script.strict frame

/-- A node comes to the same effect: the same text, or the same component in the same context. -/
theorem BlindTo.effect (blind : active.BlindTo other) (member : node ∈ active.script.tree.body) :
    Alike Failure.SameKind Eq (active.effect environment node)
      ((active.inContext other).effect environment node) := by
  cases node with
  | output position expression =>
    have printed := printed_alike Failure.SameKind.refl expression
      (blind.lookup member (active.frame.atLine position.line))
    exact printed.map fun _ _ same => by rw [same]
  | component position name variant data only =>
    -- A component sees nothing of the context but what its name and its data read there.
    have invoked := @invocation_alike _ _ (environment.components active.script.strict)
      Failure.SameKind.refl active.script.site (active.frame.atLine position.line)
      (active.frame.atLine position.line) active.context other name variant data only
      (blind.lookup member (active.frame.atLine position.line))
      (fun _ => sameKind_self _) (fun _ => sameKind_self _)
      (.inl (blind.cutOff position name variant data only member))
    exact invoked.map fun _ _ same => by rw [same]
  | _ => exact .found rfl

/-- A node takes the same step. -/
theorem BlindTo.step (blind : active.BlindTo other) (member : node ∈ active.script.tree.body) :
    Alike Failure.SameKind Eq (active.step environment node)
      ((active.inContext other).step environment node) := by
  refine (blind.effect member).bind fun effect _ same => ?_
  subst same
  -- Whether a component is let in depends on the frame alone.
  exact sameKind_self _

/-- Nodes of the body have the same text, or fail with failures of one kind. -/
theorem BlindTo.bodyText (blind : active.BlindTo other) {nodes : List Node}
    (within : ∀ node ∈ nodes, node ∈ active.script.tree.body) :
    Alike Failure.SameKind Eq
      (active.script.bodyText (environment.components active.script.strict) active.frame
        active.context nodes)
      (active.script.bodyText (environment.components active.script.strict) active.frame other
        nodes) := by
  induction nodes with
  | nil => exact .found rfl
  | cons node nodes ih =>
    -- What is left of a node after its step is the same for both contexts.
    have first : Alike Failure.SameKind Eq
        (active.script.nodeText (environment.components active.script.strict) active.frame
          active.context node)
        (active.script.nodeText (environment.components active.script.strict) active.frame other
          node) := by
      have again := @nodeText_step environment (active.inContext other) node
      simp only [inContext] at again
      rw [nodeText_step, again]
      refine ((blind.step (within node (by simp))).bind fun effect _ same => ?_).mapError
        fun _ _ kind => kind.located (active.frame.atLine node.line) active.script.source
      subst same
      exact sameKind_self _
    refine first.bind fun text _ same => ?_
    subst same
    exact (ih fun node member => within node (by simp [member])).bind fun _ _ same =>
      .found (by rw [same])

/-- An activation has the same text, or fails with failures of one kind. -/
theorem BlindTo.text (blind : active.BlindTo other) :
    Alike Failure.SameKind Eq (active.text environment)
      ((active.inContext other).text environment) := by
  -- The text is that of the body, and all of its nodes are blind.
  rw [text_eq, text_eq]
  exact blind.bodyText fun _ member => member

/-- An activation enters the same components in the same contexts. -/
theorem BlindTo.enters (blind : active.BlindTo other) (inner : callers ≠ [])
    (entered : active.Enters environment callers last) :
    (active.inContext other).Enters environment callers last := by
  cases entered with
  | here => exact absurd rfl inner
  | through reached opened deeper =>
    obtain ⟨before, after, text, split, started⟩ := reached
    have within : ∀ node ∈ before, node ∈ active.script.tree.body := fun node member => by
      simp [split, member]
    -- What stands in front has a text in both contexts, and the component is opened by both.
    have passed : (active.inContext other).Reaches environment _ :=
      ⟨before, after, text, split, (blind.bodyText within).ok_eq started⟩
    exact .through passed ((blind.step (by simp [split])).ok_eq opened) deeper

end

end Activation

/-- An environment with other globals. -/
def Environment.withGlobals (environment : Environment) (globals : Dict) : Environment :=
  { environment with globals := globals }

/-- Accepted arguments come to a root context, laid over the globals. -/
structure Roots (globals : Dict) (arguments : List Value) (keywords context : Dict) : Prop where
  named : checkKeywords keywords = .ok ()
  rooted : rootContext globals arguments keywords = .ok context

/-- A render gives the text of its root activation, whatever its globals were laid under. -/
theorem Roots.render_eq {globals keywords context : Dict} {arguments : List Value}
    (roots : Roots globals arguments keywords context) (environment : Environment)
    {template : Template} {script : Script} (made : template.IsOf script) :
    template.render (some (environment.withGlobals globals)) arguments keywords =
      (environment.root script context).text environment := by
  have scripts := @textIn_congr environment (environment.withGlobals globals) rfl rfl
  rw [render_eq_text made roots.named (show rootContext (environment.withGlobals globals).globals
    arguments keywords = .ok context from roots.rooted)]
  -- The globals are no part of what scripts come to once the root context is made.
  simp only [Activation.text, Script.wholeText, scripts]
  rfl

/-- A template whose components are cut off cannot tell two contexts that agree where it reads. -/
theorem render_isolated (maker environment : Environment) {tree : Node}
    {title file source : Option String} {template : Template}
    (made : maker.ofTree tree title file source = .ok template)
    (isolated : maker.provider = .isolated ∨ ∀ place name variant data only,
      .component place name variant data only ∈ tree.body → only = true)
    {globals others keywords words first second : Dict} {arguments given : List Value}
    (roots : Roots globals arguments keywords first) (otherRoots : Roots others given words second)
    (textual : Dict.IsTextual first) (otherTextual : Dict.IsTextual second)
    (agree : ∀ node ∈ tree.body, ∀ word ∈ node.variables,
      Dict.named? first word = Dict.named? second word) :
    let root := environment.root (maker.scriptOf tree title file source)
    -- The two renders give one text, or failures of one kind and one code.
    Alike (fun failure other => failure.SameKind other ∧ failure.code? = other.code?) Eq
      (template.render (some (environment.withGlobals globals)) arguments keywords)
      (template.render (some (environment.withGlobals others)) given words) ∧
    -- Whatever is entered below the root is entered in the same context by both.
    ∀ callers last, callers ≠ [] →
      ((root first).Enters environment callers last ↔
        (root second).Enters environment callers last) := by
  intro root
  have blind : (root first).BlindTo second := by
    refine ⟨textual, otherTextual, fun place name variant data only member => ?_, agree⟩
    -- Either the environment cuts every component off, or its tag does.
    rcases isolated with provider | tagged
    · simp [root, Environment.root, Environment.scriptOf, Site.cutsOff, Environment.site, provider]
    · simp [Site.cutsOff, tagged place name variant data only member]
  refine ⟨?_, fun callers last inner => ⟨blind.enters inner, blind.symm.enters inner⟩⟩
  rw [roots.render_eq environment (ofTree_isOf made),
    otherRoots.render_eq environment (ofTree_isOf made)]
  exact blind.text.imp fun _ _ kind => ⟨kind, kind.code⟩

/-- A page that hands nothing but a user to a component, and then prints a signature. -/
def cardTree : Node :=
  .template .start
    [.component ⟨1, 0⟩ (.name ⟨1, 8⟩ "kind") none
       (some (.hash ⟨1, 13⟩ [.constant ⟨1, 14⟩ (.text "user")] [.name ⟨1, 20⟩ "user"])) true,
     .output ⟨2, 0⟩ (.name ⟨2, 3⟩ "signed")]

/-- An environment with a component that invokes another one, which sees what it sees. -/
def cardEnvironment : Environment :=
  { Environment.default with
    loader := some (.held
      [("Card/card.html", "\x7b\x7b user.name \x7d\x7d\x7b% view 'Badge' %\x7d"),
       ("Badge/badge.html", " (\x7b\x7b className \x7d\x7d)")]) }

/-- What the component is given. -/
def cardUser : Value :=
  .dict [(.text "name", .text "Ada")]

/-- Globals that name the component. -/
def cardGlobals : Dict :=
  [(.text "kind", .text "Card")]

/-- Named arguments that name the component and the user. -/
def cardKeywords : Dict :=
  [(.text "kind", .text "Card"), (.text "user", cardUser)]

/-- The page fails alike in two contexts without a signature, only one of which has a close name. -/
theorem render_isolated_card :
    ∃ template other, cardEnvironment.ofTree cardTree (some "page") none none = .ok template ∧
      template.render (some (cardEnvironment.withGlobals cardGlobals))
        [.dict [(.text "user", cardUser), (.text "sign", .null)]] [] =
          .error (.diagnostic (.undefined ⟨"signed", "page", some 2, some "sign", none⟩)) ∧
      template.render (some (cardEnvironment.withGlobals [(.text "site", .int 7)])) []
        cardKeywords = .error other ∧
      other.code? = some .undefinedVariable := by
  have isolated : ∀ place name variant data only,
      .component place name variant data only ∈ cardTree.body → only = true := by
    simp [cardTree, Node.body]
  -- The page reads three variables by itself, two of which are there in both contexts.
  have reads (node : Node) (member : node ∈ cardTree.body) (word : String)
      (read : word ∈ node.variables) : word = "kind" ∨ word = "user" ∨ word = "signed" := by
    simp only [cardTree, Node.body, List.mem_cons, List.not_mem_nil, or_false] at member
    rcases member with rfl | rfl
    · simp only [Node.variables, componentReads, Node.reads, Node.allRead, Option.elim,
        List.cons_append, List.nil_append, List.append_nil, List.mem_cons, List.not_mem_nil,
        or_false] at read
      exact read.imp_right .inl
    · exact .inr (.inr (List.mem_singleton.1 read))
  have roots : Roots cardGlobals [.dict [(.text "user", cardUser), (.text "sign", .null)]] []
      [(.text "kind", .text "Card"), (.text "user", cardUser), (.text "sign", .null)] := ⟨rfl, rfl⟩
  have otherRoots : Roots [(.text "site", .int 7)] [] cardKeywords
      ((.text "site", .int 7) :: cardKeywords) := ⟨rfl, rfl⟩
  have rendered : (cardEnvironment.ofTree cardTree (some "page") none none >>= fun template =>
      template.render (some (cardEnvironment.withGlobals cardGlobals))
        [.dict [(.text "user", cardUser), (.text "sign", .null)]] []) =
          .error (.diagnostic (.undefined ⟨"signed", "page", some 2, some "sign", none⟩)) := by
    decide +kernel
  have accepted : (cardEnvironment.ofTree cardTree (some "page") none none).isOk = true := rfl
  obtain ⟨template, made⟩ := eq_ok_of_isOk accepted
  rw [made, ok_bind] at rendered
  obtain ⟨alike, _⟩ := render_isolated cardEnvironment cardEnvironment made (.inr isolated) roots
    otherRoots (by simp [Dict.IsTextual]) (by simp [Dict.IsTextual, cardKeywords])
    fun node member word read => by
      rcases reads node member word read with rfl | rfl | rfl <;> rfl
  -- The first render is carried out, and the second one follows it.
  obtain ⟨other, again, _, code⟩ := alike.failure rendered
  exact ⟨template, other, made, rendered, again, code.symm⟩

end Stencil
