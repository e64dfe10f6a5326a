import Stencil.Proofs.DerivedRead
import Stencil.Proofs.PrintedTokens
import Stencil.Proofs.ReadDerived

/-! Trees that are printed as sources are read back, but for the places of their nodes. -/

namespace Stencil

/-- The kind and the value of a token, wherever it stands. -/
def Token.content (token : Token) : TokenKind × String :=
  (token.kind, token.value)

/-- The kind and the value of the token that a piece is, if it is one. -/
def Piece.content? : Piece → Option (TokenKind × String)
  | .token kind _ value => some (kind, String.ofList value)
  | .gap _ => none

/-- Tokens are those of pieces. -/
def Spells (tokens : List Token) (pieces : List Piece) : Prop :=
  tokens.map Token.content = pieces.filterMap Piece.content?

section

variable {tokens : List Token} {pieces others : List Piece}

/-- No pieces are spelled by no tokens. -/
theorem Spells.nil (spells : Spells tokens []) : tokens = [] :=
  List.map_eq_nil_iff.1 spells

/-- Pieces one after another are spelled by tokens one after another. -/
theorem Spells.append (spells : Spells tokens (pieces ++ others)) :
    ∃ front back, tokens = front ++ back ∧ Spells front pieces ∧ Spells back others := by
  -- What a list of pieces spells is cut where the list is cut.
  rw [Spells, List.filterMap_append] at spells
  exact List.map_eq_append_iff.1 spells

/-- A token piece is spelled by a token of its kind and value. -/
theorem Spells.cons {kind : TokenKind} {spelling value : List Char}
    (spells : Spells tokens (.token kind spelling value :: pieces)) :
    ∃ token rest, tokens = token :: rest ∧ token.kind = kind ∧
      token.value = String.ofList value ∧ Spells rest pieces := by
  -- The piece at the front is a token, so it has one of its own among the tokens.
  obtain ⟨token, rest, rfl, content, tail⟩ := List.map_eq_cons_iff.1 spells
  simp only [Token.content, Prod.mk.injEq] at content
  exact ⟨token, rest, rfl, content.1, content.2, tail⟩

/-- A token piece by itself is spelled by one token. -/
theorem Spells.single {kind : TokenKind} {spelling value : List Char}
    (spells : Spells tokens [.token kind spelling value]) :
    ∃ token, tokens = [token] ∧ token.kind = kind ∧ token.value = String.ofList value := by
  -- Behind the one token nothing is spelled.
  obtain ⟨token, rest, rfl, same, text, tail⟩ := spells.cons
  obtain rfl := tail.nil
  exact ⟨token, rfl, same, text⟩

/-- A text by itself is spelled by one token that has it as its value. -/
theorem Spells.text {kind : TokenKind} {spelling : List Char} {words : String}
    (spells : Spells tokens [.token kind spelling words.toList]) :
    ∃ token, tokens = [token] ∧ token.kind = kind ∧ token.value = words := by
  -- The value of the token is the text the piece was made of.
  obtain ⟨token, same, found, text⟩ := spells.single
  rw [String.ofList_toList] at text
  exact ⟨token, same, found, text⟩

/-- A name is spelled by a name token. -/
theorem Spells.name {word : String} (spells : Spells tokens (nameWord word :: pieces)) :
    ∃ token rest, tokens = token :: rest ∧ token.kind = .name ∧ token.value = word ∧
      Spells rest pieces := by
  -- A name is a piece whose value is the word itself.
  obtain ⟨token, rest, same, kind, text, tail⟩ := Spells.cons spells
  exact ⟨token, rest, same, kind, by rw [text, String.ofList_toList], tail⟩

/-- A keyword is spelled by its word. -/
theorem Spells.keyword {word : String} (spells : Spells tokens (nameWord word :: pieces)) :
    ∃ token rest, tokens = token :: rest ∧ token.isWord word ∧ Spells rest pieces := by
  -- A keyword is a name with the word the tag asks for.
  obtain ⟨token, rest, same, kind, text, tail⟩ := spells.name
  exact ⟨token, rest, same, by simp [Token.isWord, kind, text], tail⟩

/-- A constant is derived from its words. -/
theorem constant_derived {quote : Char} {value : Value} (printable : value.IsPrintable)
    (plain : value.IsPlain) (spells : Spells tokens (value.words quote)) :
    ∃ read, Derives tokens (.expression read) ∧ read.unplaced = .constant .start value := by
  -- The keywords for null and the truth values stand for constants again.
  cases value with
  | null =>
    obtain ⟨token, rest, rfl, word, tail⟩ := spells.keyword
    obtain rfl := tail.nil
    exact ⟨_, .primary (.wordNull (.inr word)), rfl⟩
  | bool value =>
    obtain ⟨token, rest, rfl, word, tail⟩ := spells.keyword
    obtain rfl := tail.nil
    cases value with
    | true => exact ⟨_, .primary (.wordTrue word), rfl⟩
    | false => exact ⟨_, .primary (.wordFalse word), rfl⟩
  -- An integer is read back from its digits.
  | int number =>
    obtain ⟨token, rfl, kind, text⟩ := Spells.text spells
    exact ⟨_, .primary (.integer kind (text ▸ readInteger_writeInteger printable plain)), rfl⟩
  | text words =>
    obtain ⟨token, rfl, kind, text⟩ := Spells.text spells
    -- A text is the value of its own token.
    refine ⟨_, .primary (.string kind), ?_⟩
    rw [Node.unplaced, text]
  | _ => exact printable.elim

/-- A key is derived from its words, of which there is one. -/
theorem key_derived {quote : Char} {key : Node} (printable : key.IsPrintableKey)
    (written : key.IsKey) (spells : Spells tokens (key.words quote)) :
    ∃ token read, tokens = [token] ∧ token.KeyOf read ∧ read.unplaced = key.unplaced := by
  unfold Node.IsPrintableKey at printable
  -- A text as a key is printed in quotes, and never as a name.
  split at printable
  · obtain ⟨token, rfl, kind, text⟩ := Spells.text spells
    refine ⟨token, _, rfl, .word (.inr kind), ?_⟩
    rw [Node.unplaced, Node.unplaced, text]
  · obtain ⟨token, rfl, kind, text⟩ := Spells.text spells
    exact ⟨token, _, rfl, .integer kind (text ▸ readInteger_writeInteger printable written), rfl⟩
  · exact printable.elim

/-- A pair is a key and a colon in front of what its value is spelled by. -/
theorem pair_derived {quote : Char} {key : Node} (printable : key.IsPrintableKey)
    (written : key.IsKey) (spells : Spells tokens (pairWords (key.words quote) pieces)) :
    ∃ token colon words read, tokens = token :: colon :: words ∧ token.KeyOf read ∧
      read.unplaced = key.unplaced ∧ colon.kind = .colon ∧ Spells words pieces := by
  -- Cut the words of a pair at the colon: before it stands the key, behind it what the value is
  -- read from.
  obtain ⟨front, back, rfl, keySpells, behind⟩ := Spells.append spells
  obtain ⟨colon, words, rfl, assigned, _, valueSpells⟩ := behind.cons
  obtain ⟨token, read, rfl, named, same⟩ := key_derived printable written keySpells
  exact ⟨token, colon, words, read, rfl, named, same, assigned, valueSpells⟩

end

mutual

/-- An expression is derived from its words. -/
theorem expression_spelled {quote : Char} : ∀ {node : Node}, node.IsPrintable → node.IsExpression →
    ∀ {tokens}, Spells tokens (node.words quote) →
      ∃ read, Derives tokens (.expression read) ∧ read.unplaced = node.unplaced
  | .constant _ _, printable, plain, _, spells => constant_derived printable plain spells
  -- A name that is no constant word stands for a variable again.
  | .name _ word, ⟨_, free⟩, _, _, spells => by
    obtain ⟨token, rest, rfl, kind, rfl, tail⟩ := spells.name
    obtain rfl := tail.nil
    exact ⟨_, .primary (.name kind free), rfl⟩
  -- The object ends before the dot, since the name behind that is a single word.
  | .member _ object word, ⟨inner, _⟩, written, _, spells => by
    obtain ⟨front, back, rfl, objectSpells, behind⟩ := spells.append
    obtain ⟨dot, more, rfl, dotted, _, nameSpells⟩ := behind.cons
    obtain ⟨name, rest, rfl, named, rfl, tail⟩ := nameSpells.name
    obtain rfl := tail.nil
    obtain ⟨read, found, same⟩ := expression_spelled inner written objectSpells
    exact ⟨_, .member found dotted named, by rw [Node.unplaced, Node.unplaced, same]⟩
  -- The brackets enclose what the items are spelled by.
  | .list _ items, printable, written, _, spells => by
    obtain ⟨front, back, rfl, inside, behind⟩ := spells.append
    obtain ⟨opening, more, rfl, opened, _, inner⟩ := inside.cons
    obtain ⟨closing, rfl, closed, _⟩ := behind.single
    obtain ⟨reads, found, same⟩ := items_spelled printable written inner
    exact ⟨_, .primary (.list opened found closed), by rw [Node.unplaced, Node.unplaced, same]⟩
  -- The braces enclose the pairs in the same way.
  | .hash _ keys values, ⟨keysPrintable, valuesPrintable, paired⟩,
      ⟨keysWritten, valuesWritten, _⟩, _, spells => by
    obtain ⟨front, back, rfl, inside, behind⟩ := spells.append
    obtain ⟨opening, more, rfl, opened, _, inner⟩ := inside.cons
    obtain ⟨closing, rfl, closed, _⟩ := behind.single
    obtain ⟨keyReads, valueReads, found, keysSame, valuesSame⟩ :=
      pairs_spelled valuesPrintable valuesWritten keysPrintable keysWritten paired inner
    exact ⟨_, .primary (.hash opened found closed), by
      rw [Node.unplaced, Node.unplaced, keysSame, valuesSame]⟩

/-- The items of a list are derived from their words. -/
theorem items_spelled {quote : Char} : ∀ {nodes : List Node}, Node.ArePrintable nodes →
    Node.AreExpressions nodes →
    ∀ {tokens}, Spells tokens (commaSeparated (Node.wordLists quote nodes)) →
      ∃ reads, Derives tokens (.items reads) ∧ Node.allUnplaced reads = Node.allUnplaced nodes
  | [], _, _, _, spells => by
    obtain rfl := spells.nil
    exact ⟨[], .noItems, rfl⟩
  | [node], ⟨printable, _⟩, ⟨written, _⟩, _, spells => by
    obtain ⟨read, found, same⟩ := expression_spelled printable written spells
    exact ⟨[read], .lastItem found, by simp only [Node.allUnplaced, same]⟩
  -- A comma stands between two items, and never behind the last one.
  | node :: next :: nodes, ⟨printable, others⟩, ⟨written, othersWritten⟩, _, spells => by
    obtain ⟨front, back, rfl, itemSpells, behind⟩ := Spells.append spells
    obtain ⟨comma, more, rfl, separated, _, rest⟩ := behind.cons
    obtain ⟨read, found, same⟩ := expression_spelled printable written itemSpells
    obtain ⟨reads, list, allSame⟩ := items_spelled others othersWritten rest
    exact ⟨read :: reads, .item found separated list, by
      rw [Node.allUnplaced, same, allSame, ← Node.allUnplaced]⟩

/-- The pairs of a hash are derived from their words. -/
theorem pairs_spelled {quote : Char} : ∀ {values : List Node}, Node.ArePrintable values →
    Node.AreExpressions values →
    ∀ {keys : List Node}, (∀ key ∈ keys, key.IsPrintableKey) → (∀ key ∈ keys, key.IsKey) →
    keys.length = values.length →
    ∀ {tokens}, Spells tokens (commaSeparated (List.zipWith pairWords (Node.wordLists quote keys)
      (Node.wordLists quote values))) →
      ∃ keyReads valueReads, Derives tokens (.pairs keyReads valueReads) ∧
        Node.allUnplaced keyReads = Node.allUnplaced keys ∧
        Node.allUnplaced valueReads = Node.allUnplaced values
  | [], _, _, [], _, _, _, _, spells => by
    obtain rfl := spells.nil
    exact ⟨[], [], .noPairs, rfl, rfl⟩
  | [value], ⟨printable, _⟩, ⟨written, _⟩, [key], keysPrintable, keysWritten, _, _, spells => by
    obtain ⟨token, colon, words, keyRead, rfl, named, keySame, assigned, valueSpells⟩ :=
      pair_derived (keysPrintable key (by simp)) (keysWritten key (by simp)) spells
    obtain ⟨read, found, same⟩ := expression_spelled printable written valueSpells
    exact ⟨[keyRead], [read], .lastPair named assigned found,
      by simp only [Node.allUnplaced, keySame], by simp only [Node.allUnplaced, same]⟩
  -- As in a list, a comma only stands between two pairs.
  | value :: next :: values, ⟨printable, others⟩, ⟨written, othersWritten⟩, key :: nextKey :: keys,
      keysPrintable, keysWritten, paired, _, spells => by
    obtain ⟨front, back, rfl, pairSpells, behind⟩ := Spells.append spells
    obtain ⟨comma, more, rfl, separated, _, rest⟩ := behind.cons
    obtain ⟨token, colon, words, keyRead, rfl, named, keySame, assigned, valueSpells⟩ :=
      pair_derived (keysPrintable key (by simp)) (keysWritten key (by simp)) pairSpells
    obtain ⟨read, found, same⟩ := expression_spelled printable written valueSpells
    have keysLeft : ∀ other ∈ nextKey :: keys, other.IsPrintableKey :=
      fun other member => keysPrintable other (List.mem_cons_of_mem key member)
    have keysLeftWritten : ∀ other ∈ nextKey :: keys, other.IsKey :=
      fun other member => keysWritten other (List.mem_cons_of_mem key member)
    have pairedLeft : (nextKey :: keys).length = (next :: values).length := by simpa using paired
    obtain ⟨keyReads, reads, hash, keysSame, allSame⟩ :=
      pairs_spelled others othersWritten keysLeft keysLeftWritten pairedLeft rest
    exact ⟨keyRead :: keyReads, read :: reads, .pair named assigned found separated hash,
      by rw [Node.allUnplaced, keySame, keysSame, ← Node.allUnplaced],
      by rw [Node.allUnplaced, same, allSame, ← Node.allUnplaced]⟩

end

section

variable {tokens : List Token} {quote : Char}

/-- The gaps before words are spelled by no tokens. -/
theorem contents_spaced (words : List Piece) :
    (words.flatMap fun word => [.gap [' '], word]).filterMap Piece.content? =
      words.filterMap Piece.content? := by
  induction words with
  | nil => rfl
  | cons word words ih =>
    rw [List.flatMap_cons, List.filterMap_append, ih]
    -- A gap has no content, whatever follows it.
    cases word <;> rfl

/-- A printed tag is spelled by its words between an opening and a closing token. -/
theorem Spells.tag {tag : Tag} {words : List Piece} (spells : Spells tokens (tagPieces tag words)) :
    ∃ opening inner closing, tokens = opening :: inner ++ [closing] ∧
      opening.kind = tag.openKind ∧ closing.kind = tag.closeKind ∧ Spells inner words := by
  obtain ⟨front, back, rfl, start, finish⟩ := Spells.append spells
  obtain ⟨opening, inner, rfl, opened, _, spaced⟩ := start.cons
  -- The spaces inside the tag leave no token.
  have spelled : Spells inner words := spaced.trans (contents_spaced words)
  obtain ⟨closing, rfl, closed, _⟩ := @Spells.single back _ tag.closer tag.closer finish
  exact ⟨opening, inner, closing, rfl, opened, closed, spelled⟩

/-- A component without places is put together from its parts without places. -/
theorem unplaced_component (place : Position) (name : Node) (variant : Option String)
    (data : Option Node) (only : Bool) :
    (Node.component place name variant data only).unplaced =
      .component .start name.unplaced variant (data.map Node.unplaced) only := by
  -- The data is an optional node, and the places of neither case matter.
  cases data <;> rfl

end

/-- The nodes of a body that can be printed can be printed one by one. -/
theorem PrintableBody.each {nodes : List Node} (printable : PrintableBody nodes) :
    ∀ node ∈ nodes, node.IsPrintableStatement := by
  -- The recursion looks two nodes ahead, because no two texts may touch, so the induction follows
  -- its cases.
  induction nodes using PrintableBody.induct with
  | case1 => simp
  | case2 node =>
    intro other member
    obtain rfl := List.mem_singleton.1 member
    exact printable
  | case3 node next nodes ih =>
    intro other member
    rcases List.mem_cons.1 member with rfl | member
    · exact printable.1
    · exact ih printable.2.2 other member

/-- A key without its place is written just if the key is. -/
theorem unplaced_isKey (key : Node) : key.unplaced.IsKey ↔ key.IsKey := by
  -- A key is a constant, and dropping places leaves its value alone.
  cases key with
  | constant place value => cases value <;> exact Iff.rfl
  | component place name variant data only => cases data <;> exact Iff.rfl
  | _ => exact Iff.rfl

/-- Keys without their places are written just if the keys are, and they are as many. -/
theorem allUnplaced_areKeys (keys : List Node) :
    ((∀ key ∈ Node.allUnplaced keys, key.IsKey) ↔ ∀ key ∈ keys, key.IsKey) ∧
      (Node.allUnplaced keys).length = keys.length := by
  -- Induction on the keys: the two facts are carried together, because a hash needs both.
  induction keys with
  | nil => exact ⟨Iff.rfl, rfl⟩
  | cons key keys ih =>
    simp only [Node.allUnplaced, List.forall_mem_cons, unplaced_isKey, ih.1, List.length_cons, ih.2,
      and_self]

mutual

/-- An expression without places is written just if the expression is. -/
theorem unplaced_isExpression : ∀ node : Node, node.unplaced.IsExpression ↔ node.IsExpression
  -- Together with the statement about lists, by recursion on the tree. Only members, lists and
  -- hashes have parts.
  | .constant _ _ | .name _ _ | .data _ _ | .output _ _ | .template _ _ => Iff.rfl
  | .member _ object _ => unplaced_isExpression object
  | .list _ items => allUnplaced_areExpressions items
  | .hash _ keys values => by
    simp only [Node.unplaced, Node.IsExpression, (allUnplaced_areKeys keys).1,
      (allUnplaced_areKeys keys).2, (allUnplaced_areKeys values).2,
      allUnplaced_areExpressions values]
  | .component _ _ _ none _ | .component _ _ _ (some _) _ => Iff.rfl

/-- Expressions without places are written just if the expressions are. -/
theorem allUnplaced_areExpressions :
    ∀ nodes : List Node, Node.AreExpressions (Node.allUnplaced nodes) ↔ Node.AreExpressions nodes
  -- The list is walked in step with the tree above.
  | [] => Iff.rfl
  | node :: nodes => and_congr (unplaced_isExpression node) (allUnplaced_areExpressions nodes)

end

/-- A body that prints an integer with one digit more than are read. -/
def longBody : List Node :=
  [.output .start (.constant .start (.int (tenTo digitLimit)))]

end Stencil
