import Stencil.Proofs.Numerals
import Stencil.Proofs.ProcedureMeaning

/-! Nodes as they are written in sources: which of them stand where, and what they are made into. -/

namespace Stencil

/-- A value that can be written in a source. -/
def Value.IsPlain : Value → Prop
  | .null | .bool _ | .float _ _ | .text _ => True
  | .int number => IsShort number
  | .list _ | .dict _ | .object _ _ _ _ _ _ => False

/-- The key of a hash as it is written: a text or an integer. -/
def Node.IsKey : Node → Prop
  | .constant _ (.text _) => True
  | .constant _ (.int number) => IsShort number
  | _ => False

mutual

/-- An expression as it is written. -/
def Node.IsExpression : Node → Prop
  | .constant _ value => value.IsPlain
  | .name _ _ => True
  | .member _ object _ => object.IsExpression
  | .list _ items => Node.AreExpressions items
  -- Keys are constants, since a name before a colon stands for its own text.
  | .hash _ keys values =>
    (∀ key ∈ keys, key.IsKey) ∧ Node.AreExpressions values ∧ keys.length = values.length
  | _ => False

/-- Expressions as they are written. -/
def Node.AreExpressions : List Node → Prop
  | [] => True
  | node :: nodes => node.IsExpression ∧ Node.AreExpressions nodes

end

/-- A node of a body as it is written. -/
def Node.IsStatement : Node → Prop
  | .data _ _ => True
  | .output _ expression => expression.IsExpression
  | .component _ called _ given _ => called.IsExpression ∧ ∀ node ∈ given, node.IsExpression
  | _ => False

/-- A plain value can be written into a procedure. -/
theorem checkLiteral_plain {value : Value} (plain : value.IsPlain) :
    checkLiteral value = .ok () := by
  -- What can be written in a source is just what a procedure may hold as a literal.
  cases value <;> first | rfl | exact plain.elim

/-- A plain value has a text. -/
theorem print_plain {value : Value} (plain : value.IsPlain) : ∃ text, value.print = .ok text := by
  cases value with
  | null | bool | float | text => exact ⟨_, rfl⟩
  | int number =>
    -- Its digits are within the limit, as they have been read.
    have short : IsShort number := plain
    refine ⟨writeInteger number, ?_⟩
    unfold IsShort at short
    simp only [Value.print, Value.shown, Value.integerText, integerText?, if_pos short]
  | list | dict | object => exact plain.elim

/-- Terms that can be carried out one by one can be carried out together. -/
theorem checkAll_ok {terms : List Term} (each : ∀ term ∈ terms, term.check = .ok ()) :
    checkAll terms = .ok () := by
  -- The terms are checked in order, and the first refusal would be the answer.
  induction terms with
  | nil => rfl
  | cons term terms ih =>
    have head := each term (by simp)
    have tail := ih fun other member => each other (by simp [member])
    simp [checkAll, head, tail]

/-- The key of a hash has a term that can be carried out. -/
theorem term_key (site : Site) {key : Node} (written : key.IsKey) :
    ∃ term, site.term key = .ok term ∧ term.check = .ok () := by
  -- A key is a constant, whose term is its own value.
  unfold Node.IsKey at written
  split at written
  · exact ⟨_, rfl, rfl⟩
  · exact ⟨_, rfl, rfl⟩
  · exact written.elim

/-- The keys of a hash have terms that can be carried out, one for each. -/
theorem terms_keys (site : Site) {keys : List Node} (written : ∀ key ∈ keys, key.IsKey) :
    ∃ terms, site.terms keys = .ok terms ∧ checkAll terms = .ok () ∧
      terms.length = keys.length := by
  -- Each key has its own term, and the count goes along.
  induction keys with
  | nil => exact ⟨[], rfl, rfl, rfl⟩
  | cons key keys ih =>
    obtain ⟨term, found, checked⟩ := term_key site (written key (by simp))
    obtain ⟨terms, others, allChecked, count⟩ :=
      ih fun other member => written other (by simp [member])
    exact ⟨term :: terms, by simp only [Site.terms, found, others, ok_bind],
      by simp [checkAll, checked, allChecked], by simp [count]⟩

mutual

/-- A written expression has a term that can be carried out. -/
theorem term_written (site : Site) : ∀ {node : Node}, node.IsExpression →
    ∃ term, site.term node = .ok term ∧ term.check = .ok ()
  | .constant _ value, plain => ⟨_, rfl, checkLiteral_plain plain⟩
  | .name _ word, _ => ⟨_, rfl, by simp [Term.check, checkAll, Term.text, checkLiteral]⟩
  -- The word of a member is a text, so only its object matters.
  | .member _ object word, written => by
    obtain ⟨term, found, checked⟩ := @term_written site object written
    refine ⟨.call (.helper .member) [term, .text word], ?_, ?_⟩
    · simp only [Site.term, found, ok_bind]
    · simp [Term.check, checkAll, Term.text, checkLiteral, checked]
  | .list _ items, written => by
    obtain ⟨terms, found, checked, _⟩ := @terms_written site items written
    refine ⟨.list terms, ?_, ?_⟩
    · simp only [Site.term, found, ok_bind]
    · simp only [Term.check, checked]
  -- A dictionary is checked for as many keys as values, which is how hashes are written.
  | .hash _ keys values, written => by
    obtain ⟨keysWritten, valuesWritten, paired⟩ := written
    obtain ⟨keyTerms, keysFound, keysChecked, keyCount⟩ := terms_keys site keysWritten
    obtain ⟨terms, found, checked, count⟩ := @terms_written site values valuesWritten
    refine ⟨.dict [] keyTerms terms, ?_, ?_⟩
    · simp only [Site.term, keysFound, found, ok_bind]
    · simp [Term.check, keyCount, count, paired, keysChecked, checked, checkAll]

/-- Written expressions have terms that can be carried out, one for each. -/
theorem terms_written (site : Site) : ∀ {nodes : List Node}, Node.AreExpressions nodes →
    ∃ terms, site.terms nodes = .ok terms ∧ checkAll terms = .ok () ∧
      terms.length = nodes.length
  -- The list is walked in step with the tree above.
  | [], _ => ⟨[], rfl, rfl, rfl⟩
  | node :: nodes, ⟨head, tail⟩ => by
    obtain ⟨term, found, checked⟩ := term_written site head
    obtain ⟨terms, others, allChecked, count⟩ := terms_written site tail
    exact ⟨term :: terms, by simp only [Site.terms, found, others, ok_bind],
      by simp [checkAll, checked, allChecked], by simp [count]⟩

end

/-- A written expression can always be described. -/
theorem describe_written {node : Node} (written : node.IsExpression) :
    ∃ text, node.describe = .ok text := by
  -- Only a member is described by the description of something else.
  induction node using Node.describe.induct with
  | case1 position word => exact ⟨_, rfl⟩
  | case2 position object word ih =>
    obtain ⟨text, described⟩ := ih written
    exact ⟨text ++ "." ++ word, by simp [Node.describe, described]⟩
  -- A node with a body is not an expression.
  | case3 => exact written.elim
  | case4 position => exact ⟨_, rfl⟩
  | case5 position value other =>
    -- Any other plain value is described by its text.
    obtain ⟨text, printed⟩ := print_plain written
    exact ⟨text, by rw [Node.describe.eq_5 _ _ other, printed]⟩
  | case6 node => exact ⟨"<" ++ node.kindName ++ ">", by unfold Node.describe; grind⟩

end Stencil
