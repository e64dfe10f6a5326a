import Stencil.Proofs.ForeseenGrammar
import Stencil.Source

/-! The token that a reading refuses is the first one that cannot stand where it does. -/

namespace Stencil

section

variable {tokens rest : List Token}

/-- A variant is foreseen. -/
theorem variantName_foresees (tokens : List Token) :
    Foresees DerivesVariant variantName tokens := by
  -- One token decides: a string is taken as the variant, anything else is left.
  cases tokens with
  | nil => exact .ended rfl
  | cons token rest =>
    by_cases kind : token.kind = .string
    · exact .take (fun others => by simp only [variantName, kind, if_true]) (.some kind)
    · exact .leave (fun others => by simp only [variantName, kind, if_false]) .none

/-- The word that cuts off a context is foreseen. -/
theorem onlyWord_foresees (tokens : List Token) : Foresees DerivesOnly onlyWord tokens := by
  -- One token decides here too, by the word it spells.
  cases tokens with
  | nil => exact .ended rfl
  | cons token rest =>
    by_cases named : token.isWord "only" = true
    · exact .take (fun others => by simp only [onlyWord, named, if_true]) (.present named)
    · exact .leave (fun others => by simp only [onlyWord, named]; rfl) .absent

/-- Data behind its word is foreseen: it may not be missing there. -/
theorem componentData_foresees (tokens : List Token) :
    Foresees DerivesData componentData tokens := by
  cases tokens with
  | nil => exact .ended rfl
  | cons keyword rest =>
    by_cases named : keyword.isWord "with" = true
    · cases rest with
      | nil => exact .ended (by simp only [componentData, named, if_true])
      | cons first rest =>
        -- Behind the word stands an expression, of which the first token decides.
        have inner : Foresees (fun words data => ∃ node, Derives words (.expression node) ∧
            data = some node) (fun tokens => componentData (keyword :: tokens))
            (first :: rest) := by
          by_cases closed : first.kind = .blockClose
          · exact .refuse .missingData
              (fun others => by simp only [componentData, named, closed, if_true])
              ⟨_, blankToken_expression, rfl⟩
          · refine ((expression_foresees (first :: rest)).map some).congr fun others next => ?_
            obtain ⟨more, rfl⟩ := List.head?_eq_some_iff.1 next
            simp only [componentData, named, closed, if_true, if_false]
            rfl
        refine ((inner.behind keyword).congr fun others next => ?_).imp ?_
        · obtain ⟨more, rfl⟩ := List.head?_eq_some_iff.1 next
          rfl
        · rintro words data ⟨more, rfl, node, found, rfl⟩
          exact .some named found
    · refine .leave (fun others => ?_) .none
      rw [componentData.eq_def]
      simp only [named]
      rfl

/-- Data without a word is foreseen: a tag may do without it. -/
theorem viewData_foresees (tokens : List Token) : Foresees DerivesViewData viewData tokens := by
  cases tokens with
  | nil => exact .ended rfl
  | cons token rest =>
    by_cases none : (token.kind = .blockClose || token.isWord "only") = true
    · exact .leave (fun others => by simp only [viewData, none, if_true]) .none
    · have other : ¬ token.isWord "only" := fun named => none (by simp [named])
      -- The data starts with the token itself, which is not the word that may follow the data.
      have data : Foresees (fun words data => ∃ node, Derives words (.expression node) ∧
          data = some node) viewData (token :: rest) := by
        refine ((expression_foresees (token :: rest)).map some).congr fun others next => ?_
        obtain ⟨more, rfl⟩ := List.head?_eq_some_iff.1 next
        simp only [viewData, none]
        rfl
      have given {words : List Token} {node : Node} (found : Derives words (.expression node))
          (starts : words = [] ∨ ∃ more, words = token :: more) :
          DerivesViewData words (some node) := by
        obtain ⟨first, more, rfl, _⟩ := found.starts
        obtain ⟨_, same⟩ := starts.resolve_left (by simp)
        cases same
        exact .some other found
      refine ⟨fun {meaning left} read => ?_, fun {stop} failed full => ?_⟩
      · obtain ⟨words, split, ⟨node, found, rfl⟩, again⟩ := data.taken read
        refine ⟨words, split, given found ?_, again⟩
        cases words with
        | nil => exact .inl rfl
        | cons first words =>
          cases split
          exact .inr ⟨words, rfl⟩
      · obtain ⟨before, last, after, split, named, goes, again⟩ := data.stopped failed full
        refine ⟨before, last, after, split, named, fun start instead => ?_, again⟩
        obtain ⟨more, _, node, found, _⟩ := goes start instead
        cases before with
        | cons first before =>
          cases split
          exact ⟨more, _, given found (.inr ⟨before ++ (start ++ more), rfl⟩)⟩
        | nil =>
          cases instead with
          -- In front of the first token of the data, the data could be left out.
          | fault => exact ⟨[], _, .none⟩
          -- No number is the word that may follow the data.
          | integer _ kind | float _ kind =>
            exact ⟨more, _, .some (fun word => by simp [Token.isWord_kind word] at kind) found⟩

/-- What a tag ends with, behind all that it is made of. -/
def TagRest (make : Bool → Node) (words : List Token) (node : Node) : Prop :=
  ∃ cut only closing, words = cut ++ [closing] ∧ closing.kind = .blockClose ∧
    DerivesOnly cut only ∧ node = make only

/-- What a tag ends with is foreseen. -/
theorem tagRest_foresees (tag : String) (make : Bool → Node) (tokens : List Token) :
    Foresees (TagRest make)
      (fun tokens => onlyWord tokens >>= fun only =>
        tagEnd tag only.2 >>= fun rest => .ok (make only.1, rest)) tokens := by
  -- The flag, then the closer of the tag: both see one token ahead, so their sequence does.
  refine ((onlyWord_foresees tokens).bind (fun only rest _ =>
    (closing_foresees rfl (fun _ _ => rfl) (make only) rest : Foresees _ (fun tokens =>
      tagEnd tag tokens >>= fun rest => .ok (make only, rest)) rest)) fun _ only _ =>
      ⟨[blankToken .blockClose], _, rfl, _, rfl, rfl⟩).imp ?_
  rintro words node ⟨cut, only, _, rfl, supplied, rfl, closing, rfl, closed⟩
  exact ⟨cut, only, closing, rfl, closed, supplied, rfl⟩

/-- A tag may end where nothing is left of it but its end. -/
theorem TagRest.bare (make : Bool → Node) :
    TagRest make [blankToken .blockClose] (make false) :=
  ⟨[], false, _, rfl, rfl, .absent, rfl⟩

/-- A tag with the end of it. -/
def EndedTag (words : List Token) (node : Node) : Prop :=
  ∃ inner closing, words = inner ++ [closing] ∧ closing.kind = .blockClose ∧ DerivesTag inner node

/-- A component tag is foreseen behind its keyword. -/
theorem componentTag_foresees {keyword : Token} (named : keyword.isWord "component")
    (tokens : List Token) :
    Foresees (fun words node => EndedTag (keyword :: words) node)
      (componentTag keyword.position) tokens := by
  -- The parts follow one another, and each of them but the name may be missing.
  have data (name : Node) (variant : Option String) (tokens : List Token) :=
    (componentData_foresees tokens).bind (fun data rest _ => tagRest_foresees "component"
      (fun only => .component keyword.position name variant data only) rest)
      fun _ data _ => ⟨_, _, .bare _⟩
  have variant (name : Node) (tokens : List Token) :=
    (variantName_foresees tokens).bind (fun variant rest _ => data name variant rest)
      fun _ variant _ => ⟨_, _, [], none, _, rfl, .none, .bare _⟩
  refine (((expression_foresees tokens).bind (fun name rest _ => variant name rest)
    fun _ name _ => ⟨_, _, [], none, _, rfl, .none, [], none, _, rfl, .none, .bare _⟩).congr
      fun others _ => rfl).imp ?_
  rintro words node ⟨called, name, _, rfl, found, chosen, variant, _, rfl, varied, given, data, _,
    rfl, supplied, cut, only, closing, rfl, closed, ended, rfl⟩
  exact ⟨keyword :: (called ++ chosen ++ given ++ cut), closing, by simp, closed,
    .component named found varied supplied ended⟩

/-- A view tag is foreseen behind its keyword. -/
theorem viewTag_foresees {keyword : Token} (named : keyword.isWord "view") (tokens : List Token) :
    Foresees (fun words node => EndedTag (keyword :: words) node)
      (viewTag keyword.position) tokens := by
  -- The parts of the tag in their order, each foreseen on its own. The second half only collects
  -- the derivations into the one for the whole tag.
  have data (name : Node) (tokens : List Token) :=
    (viewData_foresees tokens).bind (fun data rest _ => tagRest_foresees "view"
      (fun only => .component keyword.position name none data only) rest)
      fun _ data _ => ⟨_, _, .bare _⟩
  refine (((expression_foresees tokens).bind (fun name rest _ => data name rest)
    fun _ name _ => ⟨_, _, [], none, _, rfl, .none, .bare _⟩).congr fun others _ => rfl).imp ?_
  rintro words node ⟨called, name, _, rfl, found, given, data, _, rfl, supplied, cut, only,
    closing, rfl, closed, ended, rfl⟩
  exact ⟨keyword :: (called ++ given ++ cut), closing, by simp, closed,
    .view named found supplied ended⟩

/-- The least tag: a component with a name. -/
theorem EndedTag.least :
    ∃ node, EndedTag [wordToken "component", blankToken .string, blankToken .blockClose] node :=
  -- Some tag can always be closed, a component with an empty name.
  ⟨_, [wordToken "component", blankToken .string], blankToken .blockClose, rfl, rfl,
    .component rfl blankToken_expression .none .none .absent⟩

/-- A block tag is foreseen behind what opens it. -/
theorem blockTag_foresees (tokens : List Token) : Foresees EndedTag blockTag tokens := by
  obtain ⟨least, spoken⟩ := EndedTag.least
  cases tokens with
  | nil => exact .ended rfl
  | cons keyword rest =>
    -- The keyword has to be a name, and one of two.
    by_cases kind : keyword.kind = .name
    · by_cases component : keyword.value = "component"
      · have named : keyword.isWord "component" := by simp [Token.isWord, kind, component]
        refine (((componentTag_foresees named rest).behind keyword).congr
          fun others next => ?_).imp ?_
        · obtain ⟨more, rfl⟩ := List.head?_eq_some_iff.1 next
          simp [blockTag, kind, component]
        · rintro words node ⟨more, rfl, tag⟩
          exact tag
      · by_cases view : keyword.value = "view"
        · have named : keyword.isWord "view" := by simp [Token.isWord, kind, view]
          refine (((viewTag_foresees named rest).behind keyword).congr
            fun others next => ?_).imp ?_
          · obtain ⟨more, rfl⟩ := List.head?_eq_some_iff.1 next
            simp [blockTag, kind, view]
          · rintro words node ⟨more, rfl, tag⟩
            exact tag
        · exact .refuse .unknownTag (fun others => by simp [blockTag, kind, component, view]) spoken
    · exact .refuse .missingTagName (fun others => by simp [blockTag, kind]) spoken

/-- An output tag is foreseen behind what opens it. -/
theorem outputTag_foresees {opening : Token} (opened : opening.kind = .outputOpen)
    (tokens : List Token) :
    Foresees (fun words node => DerivesNode (opening :: words) node)
      (outputTag opening.position) tokens := by
  -- A closer in the first place is refused at once. Otherwise a phrase is read and the closer
  -- behind it.
  cases tokens with
  | nil => exact .ended rfl
  | cons token rest =>
    by_cases closed : token.kind = .outputClose
    · exact .refuse .emptyOutput (fun others => by simp only [outputTag, closed, if_true])
        (.output opened blankToken_expression (rfl : (blankToken .outputClose).kind = _))
    · have value := (expression_foresees (token :: rest)).bind (fun value left _ =>
        (closing_foresees rfl (fun _ _ => rfl) (Node.output opening.position value) left :
          Foresees _ (fun tokens => expect .outputClose tokens >>= fun rest =>
            .ok (Node.output opening.position value, rest)) left))
        fun _ value _ => ⟨[blankToken .outputClose], _, rfl, _, rfl, rfl⟩
      refine (value.congr fun others next => ?_).imp ?_
      · obtain ⟨more, rfl⟩ := List.head?_eq_some_iff.1 next
        simp only [outputTag, closed, if_false]
      · rintro words node ⟨inner, value, _, rfl, found, rfl, closing, rfl, closed⟩
        exact .output opened found closed

/-- The first node of a body, with what is left of the tokens. -/
def firstNode : List Token → Reading (Node × List Token)
  | [] => .error .tokensEnd
  | token :: rest => bodyNode token rest

/-- A node of a body is foreseen. -/
theorem firstNode_foresees (tokens : List Token) : Foresees DerivesNode firstNode tokens := by
  -- The kind of the first token selects the production. Any other kind is refused where text could
  -- stand.
  cases tokens with
  | nil => exact .ended rfl
  | cons token rest =>
    cases kind : token.kind with
    | data => exact .take (fun others => by simp only [firstNode, bodyNode, kind]) (.data kind)
    | outputOpen =>
      refine (((outputTag_foresees kind rest).behind token).congr
        fun others next => ?_).imp ?_
      · obtain ⟨more, rfl⟩ := List.head?_eq_some_iff.1 next
        simp only [firstNode, bodyNode, kind, List.tail_cons]
      · rintro words node ⟨more, rfl, found⟩
        exact found
    | blockOpen =>
      refine (((blockTag_foresees rest).behind token).congr fun others next => ?_).imp ?_
      · obtain ⟨more, rfl⟩ := List.head?_eq_some_iff.1 next
        simp only [firstNode, bodyNode, kind, List.tail_cons]
      · rintro words node ⟨_, rfl, inner, closing, rfl, closed, tag⟩
        exact .block kind tag closed
    | _ =>
      refine .refuse .unexpectedToken (fun others => ?_)
        (.data (rfl : (blankToken .data).kind = .data))
      simp only [firstNode, bodyNode, kind]

/-- The reading of a body stops at a token in front of which the tokens could be completed, whatever
stands behind it, and with any steps that lead to it. -/
theorem bodyWithin_stopped {steps : Nat} {stop : ParseStop}
    (stopped : bodyWithin steps tokens = .error stop) (full : stop ≠ .tokensEnd) :
    ∃ before token after, tokens = before ++ token :: after ∧ stop.At token ∧
      (∀ start, stop.Instead start → ∃ more nodes, DerivesBody (before ++ (start ++ more)) nodes) ∧
      ∀ steps others, before.length < steps →
        bodyWithin steps (before ++ token :: others) = .error stop := by
  have ended : DerivesBody [blankToken .endOfInput] [] := .ended rfl
  -- The induction is on the steps, one for each node that is read in front of the stop.
  induction steps generalizing tokens with
  | zero =>
    cases stopped
    exact absurd rfl full
  | succ steps ih =>
    cases tokens with
    | nil =>
      cases stopped
      exact absurd rfl full
    | cons token rest =>
      simp only [bodyWithin] at stopped
      split at stopped
      · cases stopped
      · rename_i other
        have foresees := firstNode_foresees (token :: rest)
        rcases bind_eq_error.1 stopped with first | ⟨⟨node, left⟩, first, behind⟩
        · -- The first node stops the reading, and could be completed to one in front of the end.
          obtain ⟨before, last, after, split, named, goes, again⟩ := foresees.stopped first full
          refine ⟨before, last, after, split, named, fun start instead => ?_, ?_⟩
          · obtain ⟨more, node, found⟩ := goes start instead
            refine ⟨more ++ [blankToken .endOfInput], [node], ?_⟩
            rw [← List.append_assoc start, ← List.append_assoc before]
            exact .node found ended
          · intro steps others enough
            obtain ⟨steps, rfl⟩ : ∃ fewer, steps = fewer + 1 := ⟨steps - 1, by omega⟩
            have start : (before ++ last :: others).head? = (token :: rest).head? :=
              split ▸ head?_behind (List.head?_cons.trans List.head?_cons.symm) before
            obtain ⟨next, same⟩ := List.head?_eq_some_iff.1 start
            have failed := again others
            rw [same] at failed ⊢
            have halted : bodyNode token next = .error stop := failed
            simp only [bodyWithin, other, if_false, halted, error_bind]
        · rcases bind_eq_error.1 behind with others | ⟨_, _, impossible⟩
          · -- The first node is read again, as the tokens behind it start alike.
            obtain ⟨words, split, found, again⟩ := foresees.taken first
            obtain ⟨before, last, after, rfl, named, goes, further⟩ := ih others
            refine ⟨words ++ before, last, after, by rw [split, List.append_assoc], named,
              fun start instead => ?_, ?_⟩
            · obtain ⟨more, nodes, body⟩ := goes start instead
              refine ⟨more, node :: nodes, ?_⟩
              rw [List.append_assoc]
              exact .node found body
            · intro steps others enough
              obtain ⟨steps, rfl⟩ : ∃ fewer, steps = fewer + 1 := ⟨steps - 1, by omega⟩
              have kept : (before ++ last :: others).head? = (before ++ last :: after).head? :=
                head?_behind (List.head?_cons.trans List.head?_cons.symm) before
              have read := again _ kept
              have taken : 0 < words.length := by
                cases found <;> simp
              simp only [List.length_append] at enough
              have start : (words ++ (before ++ last :: others)).head? = (token :: rest).head? :=
                split ▸ head?_behind kept words
              obtain ⟨next, same⟩ := List.head?_eq_some_iff.1 start
              rw [List.append_assoc]
              rw [same] at read ⊢
              have first : bodyNode token next = .ok (node, before ++ last :: others) := read
              simp only [bodyWithin, other, if_false, first, ok_bind,
                further steps others (by omega), error_bind]
          · cases impossible

/-- The reading of tokens stops at one of them: with others in its place those in front of it are
completed to a template, and those behind it are never looked at. -/
theorem ofTokens_stopped {stop : ParseStop} (stopped : Node.ofTokens tokens = .error stop)
    (full : stop ≠ .tokensEnd) :
    ∃ before token after, tokens = before ++ token :: after ∧ stop.At token ∧
      (∀ start, stop.Instead start →
        ∃ more tree, Node.ofTokens (before ++ (start ++ more)) = .ok tree) ∧
      ∀ others, Node.ofTokens (before ++ token :: others) = .error stop := by
  obtain ⟨before, token, after, split, named, goes, again⟩ :=
    bodyWithin_stopped (map_eq_error.1 stopped) full
  refine ⟨before, token, after, split, named, fun start instead => ?_, fun others => ?_⟩
  · -- What the grammar derives is read.
    obtain ⟨more, nodes, body⟩ := goes start instead
    exact ⟨more, _, (DerivesTemplate.template body).read⟩
  · refine map_eq_error.2 (again _ others ?_)
    simp only [List.length_append, List.length_cons]
    omega

/-- Tokens are refused at one of them: those in front of it are completed by some others to a
template, and those behind it are never looked at. -/
theorem ofTokens_refused {fault : ParseFault}
    (refused : Node.ofTokens tokens = .error (.fault fault)) :
    ∃ before after, tokens = before ++ fault.token :: after ∧
      (∃ more tree, Node.ofTokens (before ++ more) = .ok tree) ∧
      ∀ others, Node.ofTokens (before ++ fault.token :: others) = .error (.fault fault) := by
  -- A fault names the token it stopped at, whatever follows it.
  obtain ⟨before, _, after, split, ⟨_⟩, goes, again⟩ := ofTokens_stopped refused nofun
  exact ⟨before, after, split, goes [] (.fault fault), again⟩

end

/-- The diagnostic of tokens that are refused shows the first token that cannot stand where it does:
the tokens in front of it start some template, and the tokens up to it start none. -/
theorem readTree_offending {name file source : Option String} {tokens : List Token}
    {report : Diagnostic}
    (refused : readTree name file source tokens = .error (.diagnostic report)) :
    ∃ before token after shown, tokens = before ++ token :: after ∧
      report = .malformed shown ∧ shown.stage = .parser token ∧
      shown.line = some token.position.line ∧ shown.column = some token.position.column ∧
      (∀ others tree, readTree name file source (before ++ token :: others) ≠ .ok tree) ∧
      ∃ others tree, readTree name file source (before ++ others) = .ok tree := by
  -- The report carries the token of the fault. Being refused with every continuation and being read
  -- with another one are what the foresight of the grammar gives.
  unfold readTree at refused
  split at refused <;> cases refused
  rename_i fault stopped
  obtain ⟨before, after, split, ⟨more, tree, read⟩, again⟩ := ofTokens_refused stopped
  refine ⟨before, fault.token, after, _, split, rfl, rfl, rfl, rfl, fun others tree accepted => ?_,
    more, tree, ?_⟩
  · simp [readTree, again others] at accepted
  · simp only [readTree, read]

/-- The tokens of an output tag that ends where the name of a member is missing. -/
def memberlessTokens : List Token :=
  [⟨.outputOpen, "\x7b\x7b", ⟨1, 0⟩⟩, ⟨.name, "user", ⟨1, 3⟩⟩, ⟨.dot, ".", ⟨1, 7⟩⟩,
   ⟨.outputClose, "\x7d\x7d", ⟨1, 9⟩⟩, ⟨.endOfInput, "", ⟨1, 11⟩⟩]

/-- The name of a member is missing at the end of the tag, and not in front of it. -/
theorem readTree_offending_memberless :
    ∃ report, readTree none none none memberlessTokens = .error (.diagnostic report) ∧
      ∃ before token after shown, memberlessTokens = before ++ token :: after ∧
        report = .malformed shown ∧ shown.stage = .parser token ∧
        shown.line = some token.position.line ∧ shown.column = some token.position.column ∧
        (∀ others tree, readTree none none none (before ++ token :: others) ≠ .ok tree) ∧
        ∃ others tree, readTree none none none (before ++ others) = .ok tree := by
  -- The tokens end where the name of a member is expected.
  have refused : readTree none none none memberlessTokens = .error (.diagnostic
      (ParseFault.diagnostic ⟨.missingMemberName, ⟨.outputClose, "\x7d\x7d", ⟨1, 9⟩⟩⟩
        none none none)) := by
    rfl
  exact ⟨_, refused, readTree_offending refused⟩

end Stencil
