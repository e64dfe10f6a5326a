import Stencil.Proofs.Numerals
import Stencil.Proofs.PrintedSource

/-! A printed source is cut into the pieces that it was printed from. -/

namespace Stencil

/-- A word is read as it is printed inside a tag, up to the space behind it. -/
def Piece.ReadsIn (tag : Tag) (word : Piece) : Prop :=
  (∀ spelling, word ≠ .gap spelling) ∧
    ∀ rest, nextInTag tag (word.spelling ++ ' ' :: rest) = .piece word (.tag tag) (' ' :: rest)

section

variable {tag : Tag}

/-- A character that is no blank and closes nothing starts an operand. -/
theorem nextInTag_operand {char : Char} (visible : isBlank char = false) (brace : char ≠ '}')
    (mark : char ≠ '%') (rest : List Char) :
    nextInTag tag (char :: rest) = operandPiece tag char rest := by
  -- Neither closer starts with the character.
  have closes : tag.closer.isPrefixOf (char :: rest) = false := by
    cases tag <;> simp [Tag.closer, List.isPrefixOf, brace.symm, mark.symm]
  rw [nextInTag]
  simp [visible, closes]

/-- A character that starts a name is a letter or an underscore. -/
theorem toNat_nameStart {char : Char} (starts : isNameStart char = true) :
    (65 ≤ char.toNat ∧ char.toNat ≤ 90) ∨ (97 ≤ char.toNat ∧ char.toNat ≤ 122) ∨
      char.toNat = 95 := by
  simp only [isNameStart, Bool.or_eq_true, decide_eq_true_eq] at starts
  -- It is a capital, a small letter, or the underscore.
  rcases starts with letter | rfl
  · rcases Bool.or_eq_true_iff.1 (show (char.isUpper || char.isLower) = true from letter) with
      upper | lower
    · exact .inl (of_decide_eq_true upper)
    · have range := Bool.and_eq_true_iff.1 lower
      exact .inr (.inl ⟨of_decide_eq_true range.1, of_decide_eq_true range.2⟩)
  · exact .inr (.inr rfl)

/-- A character of another number is another character. -/
theorem ne_of_toNat {char other : Char} (apart : char.toNat ≠ other.toNat) : char ≠ other :=
  fun same => apart (congrArg Char.toNat same)

/-- Characters of one kind are taken up to the space behind them. -/
theorem takeWhile_space {accepts : Char → Bool} {word : List Char}
    (each : ∀ char ∈ word, accepts char = true) (stops : accepts ' ' = false) (rest : List Char) :
    (word ++ ' ' :: rest).takeWhile accepts = word := by
  -- The word is accepted as a whole, the blank behind it is not.
  rw [List.takeWhile_append_of_pos each]
  simp [stops]

/-- The space behind characters of one kind is the first that is left. -/
theorem dropWhile_space {accepts : Char → Bool} {word : List Char}
    (each : ∀ char ∈ word, accepts char = true) (stops : accepts ' ' = false) (rest : List Char) :
    (word ++ ' ' :: rest).dropWhile accepts = ' ' :: rest := by
  -- The word is dropped as a whole, and the blank behind it stays.
  rw [List.dropWhile_append_of_pos each]
  simp [stops]

/-- A name is read up to the space behind it. -/
theorem nameWord_reads {word : String} (identifier : IsIdentifier word) :
    (nameWord word).ReadsIn tag := by
  obtain ⟨first, others, same, starts, checked⟩ := identifier
  have continues : ∀ char ∈ others, isNameChar char = true := List.all_eq_true.1 checked
  have range := toNat_nameStart starts
  refine ⟨fun spelling => by simp [nameWord, Piece.plain], fun rest => ?_⟩
  -- The first character is no blank, no quote and no closer, by its number.
  have visible : isBlank first = false := isBlank_visible (by omega) (by omega)
  have operand := @nextInTag_operand tag first visible
    (ne_of_toNat (by simp; omega)) (ne_of_toNat (by simp; omega)) (others ++ ' ' :: rest)
  have single : first ≠ '\'' := ne_of_toNat (by simp; omega)
  have double : first ≠ '"' := ne_of_toNat (by simp; omega)
  -- The space is the first character that cannot go on with the name.
  have taken := takeWhile_space continues rfl rest
  have left := dropWhile_space continues rfl rest
  simp only [nameWord, Piece.plain, Piece.spelling, same, List.cons_append, operand]
  simp [operandPiece, single, double, starts, taken, left, Piece.plain]

/-- An integer is read up to the space behind it. -/
theorem integerWord_reads {number : Int} (positive : 0 ≤ number) :
    (Piece.plain .integer (writeInteger number).toList).ReadsIn tag := by
  refine ⟨fun spelling => by simp [Piece.plain], fun rest => ?_⟩
  -- The digits are those that the library writes, of which there is at least one.
  have each {char : Char} (member : char ∈ Nat.toDigits 10 number.toNat) : char.isDigit = true :=
    Nat.isDigit_of_mem_toDigits (by omega) (by omega) member
  rw [writeInteger_digits positive, String.toList_ofList]
  cases digits : Nat.toDigits 10 number.toNat with
  | nil => exact absurd digits Nat.toDigits_ne_nil
  | cons first others =>
    have digit : first.isDigit = true := each (by simp [digits])
    have range := toNat_digit digit
    have operand := @nextInTag_operand tag first (isBlank_decimal (isDecimal_digit digit))
      (ne_of_toNat (by simp; omega)) (ne_of_toNat (by simp; omega)) (others ++ ' ' :: rest)
    have single : first ≠ '\'' := ne_of_toNat (by simp; omega)
    have double : first ≠ '"' := ne_of_toNat (by simp; omega)
    -- A digit starts no name, so the word is read as a number.
    have unnamed : isNameStart first = false := by
      cases starts : isNameStart first with
      | false => rfl
      | true =>
        have letters := toNat_nameStart starts
        omega
    have decimal : ∀ char ∈ first :: others, isDecimal char = true := by
      intro char member
      exact isDecimal_digit (each (by rw [digits]; exact member))
    -- The number ends at the space, which is no point that could lead on to more digits.
    have taken := takeWhile_space decimal (by decide) rest
    have left := dropWhile_space decimal (by decide) rest
    have read : numberPiece (first :: (others ++ ' ' :: rest)) =
        (.plain .integer (first :: others), ' ' :: rest) := by
      rw [List.cons_append] at taken left
      simp only [numberPiece, taken, left]
      rfl
    simp only [Piece.plain, Piece.spelling, List.cons_append, operand]
    simp [operandPiece, single, double, unnamed, decimal first (by simp), read, Piece.plain]

/-- A backslash is put before a character that would be taken for another. -/
theorem escaped_special {quote char : Char} (special : char = '\\' ∨ char = quote)
    (text : List Char) : escaped quote (char :: text) = '\\' :: char :: escaped quote text := by
  -- A backslash is put in front.
  simp [escaped, special]

/-- Any other character stands as it is. -/
theorem escaped_other {quote char : Char} (other : ¬ (char = '\\' ∨ char = quote))
    (text : List Char) : escaped quote (char :: text) = char :: escaped quote text := by
  -- The character stands for itself.
  simp [escaped, other]

/-- A text between quotes ends at the quote behind it. -/
theorem splitString_escaped {quote : Char} (other : quote ≠ '\\') (text rest : List Char) :
    splitString quote (escaped quote text ++ quote :: rest) = some (escaped quote text, rest) := by
  -- The induction is on the text, each character of which is escaped or not.
  induction text with
  | nil =>
    rw [escaped, List.nil_append, splitString.eq_def]
    simp
  | cons char text ih =>
    by_cases special : char = '\\' ∨ char = quote
    · -- The backslash keeps the character behind it.
      simp only [escaped_special special, List.cons_append, splitString, other.symm, if_false,
        if_true, ih, Option.map_some]
    · -- Any other character is neither a backslash nor the quote that ends the text.
      rw [escaped_other special, List.cons_append, splitString.eq_def]
      rw [not_or] at special
      simp [special.1, special.2, ih]

/-- A text is what its escaped form stands for. -/
theorem unescape_escaped {quote : Char} (other : quote ≠ '\n') (text : List Char) :
    unescape (escaped quote text) = text := by
  -- Each escape is undone where it was made.
  induction text with
  | nil => rfl
  | cons char text ih =>
    by_cases special : char = '\\' ∨ char = quote
    · -- The backslash goes unless a line ends behind it, and neither character ends one.
      have kept : char ≠ '\n' := by
        rcases special with rfl | rfl
        · decide
        · exact other
      rw [escaped_special special, unescape, if_neg kept, ih]
    · rw [escaped_other special]
      rw [not_or] at special
      rw [unescape.eq_2 _ _ (fun kept rest same => absurd same special.1), ih]

/-- The two kinds of quote. -/
def IsQuote (quote : Char) : Prop :=
  quote = '\'' ∨ quote = '"'

/-- A text between quotes is read up to the space behind it. -/
theorem stringWord_reads {quote : Char} (chosen : IsQuote quote) (text : String) :
    (stringWord quote text).ReadsIn tag := by
  refine ⟨fun spelling => by simp [stringWord], fun rest => ?_⟩
  -- All that is asked of the quote is decided for both kinds of it.
  have visible : isBlank quote = false := by rcases chosen with rfl | rfl <;> decide
  have brace : quote ≠ '}' := by rcases chosen with rfl | rfl <;> decide
  have mark : quote ≠ '%' := by rcases chosen with rfl | rfl <;> decide
  have backslash : quote ≠ '\\' := by rcases chosen with rfl | rfl <;> decide
  have lineEnd : quote ≠ '\n' := by rcases chosen with rfl | rfl <;> decide
  have quoted : (quote = '\'' || quote = '"') = true := by
    rcases chosen with rfl | rfl <;> rfl
  have operand := @nextInTag_operand tag quote visible brace mark
    (escaped quote text.toList ++ quote :: ' ' :: rest)
  -- The first quote that is not escaped is the one behind the text.
  have split := splitString_escaped backslash text.toList (' ' :: rest)
  simp only [stringWord, Piece.spelling, List.cons_append, List.append_assoc, List.nil_append,
    operand]
  simp only [operandPiece, quoted, if_true, split, unescape_escaped lineEnd, List.cons_append]

/-- A sign is read up to the space behind it. -/
theorem signWord_reads {char : Char} {kind : TokenKind} (sign : punctuation? char = some kind) :
    (Piece.plain kind [char]).ReadsIn tag := by
  refine ⟨fun spelling => by simp [Piece.plain], fun rest => ?_⟩
  -- No closer has a space as its second character.
  have closes : tag.closer.isPrefixOf (char :: ' ' :: rest) = false := by
    cases tag <;> simp [Tag.closer, List.isPrefixOf]
  -- There are seven signs, none of which starts anything else.
  have plain : isBlank char = false ∧ (char = '\'' || char = '"') = false ∧
      isNameStart char = false ∧ isDecimal char = false := by
    unfold punctuation? at sign
    split at sign <;> first | decide | cases sign
  obtain ⟨visible, unquoted, unnamed, wordless⟩ := plain
  simp only [Piece.plain, Piece.spelling, List.cons_append, List.nil_append, nextInTag, visible,
    closes, operandPiece, unquoted, unnamed, wordless, signPiece, sign, Bool.false_eq_true,
    if_false]

/-- Words that are all read as they are printed. -/
def AllReadIn (tag : Tag) (words : List Piece) : Prop :=
  ∀ word ∈ words, word.ReadsIn tag

/-- Words one after another are read if both parts are. -/
theorem AllReadIn.append {first second : List Piece} (left : AllReadIn tag first)
    (right : AllReadIn tag second) : AllReadIn tag (first ++ second) := by
  intro word member
  -- A word of both is a word of one of them.
  rcases List.mem_append.1 member with member | member
  · exact left word member
  · exact right word member

/-- Words behind a word are read if all of them are. -/
theorem AllReadIn.cons {word : Piece} {words : List Piece} (head : word.ReadsIn tag)
    (tail : AllReadIn tag words) : AllReadIn tag (word :: words) := by
  -- A piece is the first one or one of the others.
  intro other member
  rcases List.mem_cons.1 member with rfl | member
  · exact head
  · exact tail other member

/-- No words are read. -/
theorem AllReadIn.nil : AllReadIn tag [] := by
  -- No word is in the list.
  intro word member
  cases member

/-- Items with commas between them are read if all items are. -/
theorem commaSeparated_reads {items : List (List Piece)}
    (each : ∀ item ∈ items, AllReadIn tag item) : AllReadIn tag (commaSeparated items) := by
  -- A comma is printed only where another item follows.
  induction items using commaSeparated.induct with
  | case1 => exact .nil
  | case2 item => exact each item (by simp)
  | case3 item next items ih =>
    have others := ih fun other member => each other (by simp [member])
    exact (each item (by simp)).append (.cons (signWord_reads rfl) others)

/-- Pairs are read if their keys and values are. -/
theorem pairWords_reads {keys values : List (List Piece)}
    (keysRead : ∀ key ∈ keys, AllReadIn tag key)
    (valuesRead : ∀ value ∈ values, AllReadIn tag value) :
    ∀ pair ∈ List.zipWith pairWords keys values, AllReadIn tag pair := by
  -- Keys and values are taken in pairs, as far as both go.
  induction keys generalizing values with
  | nil => simp
  | cons key keys ih =>
    cases values with
    | nil => simp
    | cons value values =>
      intro pair member
      rw [List.zipWith_cons_cons, List.mem_cons] at member
      rcases member with rfl | member
      · exact (keysRead key (by simp)).append
          (.cons (signWord_reads rfl) (valuesRead value (by simp)))
      · exact ih (fun other among => keysRead other (by simp [among]))
          (fun other among => valuesRead other (by simp [among])) pair member

/-- A constant is read as it is printed. -/
theorem constantWords_read {quote : Char} (chosen : IsQuote quote) {value : Value}
    (printable : value.IsPrintable) : AllReadIn tag (value.words quote) := by
  -- Keywords are names, and the other constants have words of their own.
  cases value with
  | null => exact .cons (nameWord_reads ⟨'n', _, rfl, rfl, rfl⟩) .nil
  | bool value =>
    cases value with
    | true => exact .cons (nameWord_reads ⟨'t', _, rfl, rfl, rfl⟩) .nil
    | false => exact .cons (nameWord_reads ⟨'f', _, rfl, rfl, rfl⟩) .nil
  | int number => exact .cons (integerWord_reads printable) .nil
  | text words => exact .cons (stringWord_reads chosen words) .nil
  | _ => exact printable.elim

/-- A key that can be printed is a constant that can be. -/
theorem Node.IsPrintableKey.words_read {quote : Char} (chosen : IsQuote quote) {key : Node}
    (printable : key.IsPrintableKey) : AllReadIn tag (key.words quote) := by
  unfold Node.IsPrintableKey at printable
  -- A key is a text, or an integer that is not negative.
  split at printable
  · exact constantWords_read chosen trivial
  · exact constantWords_read chosen printable
  · exact printable.elim

/-- The keys of a hash are read as they are printed. -/
theorem keyLists_read {quote : Char} (chosen : IsQuote quote) {keys : List Node}
    (printable : ∀ key ∈ keys, key.IsPrintableKey) :
    ∀ words ∈ Node.wordLists quote keys, AllReadIn tag words := by
  -- Induction on the keys, each by the lemma about one.
  induction keys with
  | nil => simp [Node.wordLists]
  | cons key keys ih =>
    intro words member
    rcases List.mem_cons.1 member with rfl | member
    · exact (printable key (by simp)).words_read chosen
    · exact ih (fun other among => printable other (by simp [among])) words member

mutual

/-- An expression is read as it is printed. -/
theorem words_read {quote : Char} (chosen : IsQuote quote) :
    ∀ {node : Node}, node.IsPrintable → AllReadIn tag (node.words quote)
  -- Together with the statement about lists, by recursion on the tree. Around the parts stand
  -- signs, and a sign is read wherever it stands.
  | .constant _ _, printable => constantWords_read chosen printable
  | .name _ _, printable => .cons (nameWord_reads printable.1) .nil
  | .member _ _ _, printable =>
    (words_read chosen printable.1).append
      (.cons (signWord_reads rfl) (.cons (nameWord_reads printable.2) .nil))
  | .list _ _, printable =>
    .append (.cons (signWord_reads rfl) (commaSeparated_reads (wordLists_read chosen printable)))
      (.cons (signWord_reads rfl) .nil)
  | .hash _ _ _, ⟨keysPrintable, valuesPrintable, _⟩ =>
    .append
      (.cons (signWord_reads rfl) (commaSeparated_reads (pairWords_reads
        (keyLists_read chosen keysPrintable) (wordLists_read chosen valuesPrintable))))
      (.cons (signWord_reads rfl) .nil)

/-- Expressions are read as they are printed. -/
theorem wordLists_read {quote : Char} (chosen : IsQuote quote) :
    ∀ {nodes : List Node}, Node.ArePrintable nodes →
      ∀ words ∈ Node.wordLists quote nodes, AllReadIn tag words
  -- The list is walked in step with the tree above.
  | [], _ => by simp [Node.wordLists]
  | node :: nodes, ⟨head, tail⟩ => by
    intro words member
    rcases List.mem_cons.1 member with rfl | member
    · exact words_read chosen head
    · exact wordLists_read chosen tail words member

end

/-- A component tag is read as it is printed. -/
theorem componentWords_read {quote : Char} (chosen : IsQuote quote) {name : Node}
    (printable : name.IsPrintable) (variant : Option String) {data : Option Node}
    (dataPrintable : ∀ node ∈ data, node.IsPrintable) (only : Bool) :
    AllReadIn tag (nameWord "component" :: (name.words quote ++ variantWords quote variant ++
      dataWords quote data ++ onlyWords only)) := by
  -- Each part is read by itself, and those that are left out have no words.
  have keyword : (nameWord "component").ReadsIn tag :=
    nameWord_reads ⟨'c', _, rfl, rfl, rfl⟩
  have variantRead : AllReadIn tag (variantWords quote variant) := by
    cases variant with
    | none => exact .nil
    | some variant => exact .cons (stringWord_reads chosen variant) .nil
  have dataRead : AllReadIn tag (dataWords quote data) := by
    cases data with
    | none => exact .nil
    | some node =>
      exact .cons (nameWord_reads ⟨'w', _, rfl, rfl, rfl⟩)
        (words_read chosen (dataPrintable node rfl))
  have onlyRead : AllReadIn tag (onlyWords only) := by
    cases only with
    | false => exact .nil
    | true => exact .cons (nameWord_reads ⟨'o', _, rfl, rfl, rfl⟩) .nil
  exact .cons keyword ((((words_read chosen printable).append variantRead).append dataRead).append
    onlyRead)

/-- A word that is read starts with a character that is no blank. -/
theorem Piece.ReadsIn.starts {word : Piece} (reads : word.ReadsIn tag) :
    ∃ char rest, word.spelling = char :: rest ∧ isBlank char = false := by
  -- The word is read with nothing but a space behind it.
  have read := reads.2 []
  cases spelled : word.spelling with
  | nil =>
    -- A blank is a gap, which no word is.
    rw [spelled] at read
    simp only [List.nil_append, nextInTag, show isBlank ' ' = true from rfl, if_true,
      Next.piece.injEq] at read
    exact absurd read.1.symm (reads.1 _)
  | cons char rest =>
    refine ⟨char, rest, rfl, ?_⟩
    -- A blank at its start would be read as a gap as well.
    cases blank : isBlank char with
    | false => rfl
    | true =>
      rw [spelled, List.cons_append, nextInTag, if_pos blank, Next.piece.injEq] at read
      exact absurd read.1.symm (reads.1 _)

/-- One space before anything that is no blank is a gap of its own. -/
theorem nextInTag_space {char : Char} (visible : isBlank char = false) (rest : List Char) :
    nextInTag tag (' ' :: char :: rest) = .piece (.gap [' ']) (.tag tag) (char :: rest) := by
  -- The gap ends before the first character that is no blank.
  have blank : isBlank ' ' = true := rfl
  simp [nextInTag, blank, visible]

/-- The closer of a tag ends it. -/
theorem nextInTag_closer (tag : Tag) (rest : List Char) :
    nextInTag tag (tag.closer ++ rest) =
      .piece (.plain tag.closeKind tag.closer) .text rest := by
  -- Both closers are looked for before any operand.
  cases tag with
  | output => simp [nextInTag, Tag.closer, show isBlank '}' = false from rfl, List.isPrefixOf]
  | block => simp [nextInTag, Tag.closer, show isBlank '%' = false from rfl, List.isPrefixOf]

end

/-- A piece that comes next is the first one of all. -/
theorem piecesOf_cons {zone after : Zone} {text rest : List Char} {piece : Piece}
    (read : nextPiece zone text = .piece piece after rest) :
    piecesOf zone text = (piece :: (piecesOf after rest).1, (piecesOf after rest).2) := by
  rw [piecesOf]
  -- The other ways to go on are excluded by what comes next.
  split
  · rename_i ended
    rw [read] at ended
    cases ended
  · rename_i problem
    rw [read] at problem
    cases problem
  · rename_i other zone left same
    rw [read] at same
    cases same
    rfl

/-- The text of pieces one after another. -/
theorem spellingOf_append (first second : List Piece) :
    spellingOf (first ++ second) = spellingOf first ++ spellingOf second :=
  List.flatMap_append

/-- The rest of a printed tag is read word by word. -/
theorem piecesOf_words (tag : Tag) {words : List Piece} (reads : AllReadIn tag words)
    (rest : List Char) :
    piecesOf (.tag tag) (spellingOf (words.flatMap (fun word => [.gap [' '], word]) ++
        [.gap [' '], .plain tag.closeKind tag.closer]) ++ rest) =
      (words.flatMap (fun word => [.gap [' '], word]) ++
        [.gap [' '], .plain tag.closeKind tag.closer] ++ (piecesOf .text rest).1,
        (piecesOf .text rest).2) := by
  induction words with
  | nil =>
    -- Behind the last word, one space and the closer are left.
    have closes : ∃ char more, tag.closer ++ rest = char :: more ∧ isBlank char = false := by
      cases tag <;> exact ⟨_, _, rfl, rfl⟩
    obtain ⟨char, more, same, visible⟩ := closes
    have space : nextPiece (.tag tag) (' ' :: (tag.closer ++ rest)) =
        .piece (.gap [' ']) (.tag tag) (tag.closer ++ rest) := by
      rw [same]
      exact nextInTag_space visible more
    have written : spellingOf ([.gap [' '], .plain tag.closeKind tag.closer]) ++ rest =
        ' ' :: (tag.closer ++ rest) := by
      simp [spellingOf, Piece.spelling, Piece.plain]
    have closing : nextPiece (.tag tag) (tag.closer ++ rest) =
        .piece (.plain tag.closeKind tag.closer) .text rest := nextInTag_closer tag rest
    rw [List.flatMap_nil, List.nil_append, written, piecesOf_cons space, piecesOf_cons closing]
    rfl
  | cons word words ih =>
    have others := ih fun other member => reads other (by simp [member])
    have head := reads word (by simp)
    obtain ⟨char, more, spelled, visible⟩ := head.starts
    -- Behind the word, the next space is there already.
    obtain ⟨behind, same⟩ : ∃ behind, spellingOf (words.flatMap (fun word => [.gap [' '], word]) ++
        [.gap [' '], .plain tag.closeKind tag.closer]) ++ rest = ' ' :: behind := by
      cases words with
      | nil => exact ⟨_, rfl⟩
      | cons next words => exact ⟨_, rfl⟩
    -- The space and the word come first in the text, so they are the next two pieces.
    have written : spellingOf ((word :: words).flatMap (fun word => [.gap [' '], word]) ++
        [.gap [' '], .plain tag.closeKind tag.closer]) ++ rest =
        ' ' :: (word.spelling ++ ' ' :: behind) := by
      rw [← same]
      simp [spellingOf, Piece.spelling]
    have space : nextPiece (.tag tag) (' ' :: (word.spelling ++ ' ' :: behind)) =
        .piece (.gap [' ']) (.tag tag) (word.spelling ++ ' ' :: behind) := by
      rw [spelled]
      exact nextInTag_space visible _
    have read : nextPiece (.tag tag) (word.spelling ++ ' ' :: behind) =
        .piece word (.tag tag) (' ' :: behind) := head.2 behind
    rw [written, piecesOf_cons space, piecesOf_cons read, ← same, others]
    rfl

/-- A text that nothing in opens a tag or a comment. -/
def OpensNothing (text : List Char) : Prop :=
  ∀ second ∈ ['{', '%', '#'], ¬ ['{', second] <:+: text

/-- A text ends before the end of a source, or before a tag that it does not run into. -/
def StopsBefore (text rest : List Char) : Prop :=
  rest = [] ∨
    (∃ mark more, rest = '{' :: mark :: more ∧ isOpener '{' mark = true) ∧
      text.getLast? ≠ some '{'

/-- The first two characters of a text that opens nothing do not either. -/
theorem OpensNothing.first {first second : Char} {rest : List Char}
    (plain : OpensNothing (first :: second :: rest)) : isOpener first second = false := by
  cases opens : isOpener first second with
  | false => rfl
  | true =>
    simp only [isOpener, Bool.and_eq_true, Bool.or_eq_true, decide_eq_true_eq] at opens
    obtain ⟨rfl, marked⟩ := opens
    -- What would open something is held by the text, right at its start.
    have member : second ∈ ['{', '%', '#'] := by
      rcases marked with (rfl | rfl) | rfl <;> simp
    exact absurd ⟨[], rest, rfl⟩ (plain second member)

/-- What stands behind the first character of a text opens nothing if the text does not. -/
theorem OpensNothing.tail {first : Char} {rest : List Char} (plain : OpensNothing (first :: rest)) :
    OpensNothing rest :=
  -- What is found in the tail is found in the whole.
  fun second member held => plain second member (held.trans (List.suffix_cons first rest).isInfix)

/-- A text that opens nothing is taken up to where it stops. -/
theorem splitData_plain {text rest : List Char} (plain : OpensNothing text)
    (stops : StopsBefore text rest) : splitData (text ++ rest) = (text, rest) := by
  -- The induction is on the text; only its last character can meet what follows.
  induction text with
  | nil =>
    rcases stops with rfl | ⟨⟨mark, more, rfl, opens⟩, _⟩
    · rfl
    · simp [splitData, opens]
  | cons first text ih =>
    cases text with
    | nil =>
      rcases stops with rfl | ⟨⟨mark, more, rfl, opens⟩, last⟩
      · rfl
      · -- The text does not end in the brace that could open a tag with the one behind it.
        have other : first ≠ '{' := by simpa using last
        have apart : isOpener first '{' = false := by simp [isOpener, other]
        have behind : splitData ('{' :: mark :: more) = ([], '{' :: mark :: more) := by
          simp [splitData, opens]
        simp only [List.cons_append, List.nil_append]
        rw [splitData]
        simp [apart, behind]
    | cons second text =>
      -- In front of that, the two characters that are compared are both in the text.
      have later : StopsBefore (second :: text) rest := by
        rcases stops with ended | ⟨opens, last⟩
        · exact .inl ended
        · exact .inr ⟨opens, by simpa using last⟩
      have others := ih plain.tail later
      rw [List.cons_append] at others
      simp [splitData, plain.first, others]

/-- A text that opens nothing does not open anything together with what it stops before. -/
theorem OpensNothing.meets {text rest : List Char} (plain : OpensNothing text)
    (full : text ≠ []) (stops : StopsBefore text rest) {first second : Char} {more : List Char}
    (same : text ++ rest = first :: second :: more) : isOpener first second = false := by
  -- The pair is in the text, unless the text is only one character long.
  match text with
  | [] => exact absurd rfl full
  | [char] =>
    rcases stops with rfl | ⟨⟨mark, behind, rfl, _⟩, last⟩
    · cases same
    · cases same
      have other : first ≠ '{' := by simpa using last
      simp [isOpener, other]
  | char :: next :: text =>
    cases same
    exact plain.first

/-- A text that opens nothing is read as one piece. -/
theorem nextInText_plain {text rest : List Char} (plain : OpensNothing text) (full : text ≠ [])
    (stops : StopsBefore text rest) :
    nextInText (text ++ rest) = .piece (.plain .data text) .text rest := by
  -- No opener stands at the start, not even across the end of the text.
  have apart {second : Char} {more : List Char} (same : text ++ rest = '{' :: second :: more) :=
    plain.meets full stops same
  unfold nextInText
  -- Only the last case is left, as the others start with what opens something.
  split
  · rename_i none
    exact absurd (List.append_eq_nil_iff.1 none).1 full
  · rename_i same
    exact absurd (apart same) (by decide)
  · rename_i same
    exact absurd (apart same) (by decide)
  · rename_i same
    exact absurd (apart same) (by decide)
  · rw [splitData_plain plain stops]

/-- A printed tag is read from its opener to its closer. -/
theorem piecesOf_tag (tag : Tag) {words : List Piece} (reads : AllReadIn tag words)
    (rest : List Char) :
    piecesOf .text (spellingOf (tagPieces tag words) ++ rest) =
      (tagPieces tag words ++ (piecesOf .text rest).1, (piecesOf .text rest).2) := by
  -- Text gives way to a tag at the opener of the tag.
  have opening (text : List Char) : nextPiece .text (tag.opener ++ text) =
      .piece (.plain tag.openKind tag.opener) (.tag tag) text := by
    cases tag <;> rfl
  have inner := piecesOf_words tag reads rest
  rw [spellingOf_append] at inner
  have written : spellingOf (tagPieces tag words) ++ rest = tag.opener ++
      (spellingOf (words.flatMap fun word => [.gap [' '], word]) ++
        spellingOf [.gap [' '], .plain tag.closeKind tag.closer] ++ rest) := by
    simp [tagPieces, spellingOf, Piece.plain, Piece.spelling]
  rw [written, piecesOf_cons (opening _), inner]
  simp [tagPieces]

/-- A node that can be printed is read as its pieces, if it stops before what follows it. -/
theorem piecesOf_node {quote : Char} (chosen : IsQuote quote) {node : Node}
    (printable : node.IsPrintableStatement) {rest : List Char}
    (stops : ∀ place text, node = .data place text → StopsBefore text.toList rest) :
    piecesOf .text (spellingOf (node.pieces quote) ++ rest) =
      (node.pieces quote ++ (piecesOf .text rest).1, (piecesOf .text rest).2) := by
  cases node with
  | data place text =>
    obtain ⟨full, plain⟩ := printable
    have nonempty : text.toList ≠ [] := by simpa using full
    -- The whole text is one piece, as it is neither empty nor cut short.
    have read : nextPiece .text (text.toList ++ rest) =
        .piece (.plain .data text.toList) .text rest :=
      nextInText_plain plain nonempty (stops place text rfl)
    have written : spellingOf (Node.pieces quote (.data place text)) = text.toList := by
      simp [Node.pieces, spellingOf, Piece.plain, Piece.spelling]
    rw [written, piecesOf_cons read]
    rfl
  | output place expression => exact piecesOf_tag .output (words_read chosen printable) rest
  | component place name variant data only =>
    exact piecesOf_tag .block
      (componentWords_read chosen printable.1 variant printable.2 only) rest
  | _ => exact printable.elim

/-- What is no text starts with the opener of a tag. -/
theorem pieces_open {quote : Char} {node : Node} (printable : node.IsPrintableStatement)
    (other : ∀ place text, node ≠ .data place text) (rest : List Char) :
    ∃ mark more, spellingOf (node.pieces quote) ++ rest = '{' :: mark :: more ∧
      isOpener '{' mark = true := by
  -- An output opens with two braces, and a component with a brace and a percent sign.
  cases node with
  | data place text => exact absurd rfl (other place text)
  | output place expression => exact ⟨'{', _, rfl, rfl⟩
  | component place name variant data only => exact ⟨'%', _, rfl, rfl⟩
  | _ => exact printable.elim

/-- A body that can be printed is read as its pieces. -/
theorem piecesOf_body {quote : Char} (chosen : IsQuote quote) {nodes : List Node}
    (printable : PrintableBody nodes) :
    piecesOf .text (spellingOf (nodes.flatMap (Node.pieces quote))) =
      (nodes.flatMap (Node.pieces quote), none) := by
  induction nodes using PrintableBody.induct with
  | case1 =>
    rw [List.flatMap_nil, piecesOf]
    rfl
  | case2 node =>
    -- The last node stops before the end of the source.
    have stops : ∀ place text, node = .data place text → StopsBefore text.toList [] :=
      fun _ _ _ => .inl rfl
    have read := piecesOf_node chosen printable stops
    have ended : piecesOf .text [] = ([], none) := by
      rw [piecesOf]
      rfl
    simpa [ended] using read
  | case3 node next nodes ih =>
    obtain ⟨head, precedes, tail⟩ := printable
    -- A text before another node stops before the tag that this node is printed as.
    have stops : ∀ place text, node = .data place text → StopsBefore text.toList
        (spellingOf ((next :: nodes).flatMap (Node.pieces quote))) := by
      rintro place text rfl
      obtain ⟨other, last⟩ := precedes
      have statement : next.IsPrintableStatement := by
        cases nodes with
        | nil => exact tail
        | cons _ _ => exact tail.1
      rw [List.flatMap_cons, spellingOf_append]
      exact .inr ⟨pieces_open statement other _, last⟩
    have read := piecesOf_node chosen head stops
    rw [List.flatMap_cons, spellingOf_append, read, ih tail]

/-- A tree that can be printed has the tokens that it is printed from. -/
theorem tokenize_source {quote : Char} (chosen : IsQuote quote) {tree : Node}
    (printable : PrintableBody tree.body) :
    ∃ last, last.kind = .endOfInput ∧ tokenize (tree.source quote) =
      .ok (placeTokens .start (tree.body.flatMap (Node.pieces quote)) ++ [last]) := by
  -- The pieces are placed one behind the other, and the end of input follows them.
  have tokens : tokenize (tree.source quote) =
      .ok (placeTokens .start (tree.body.flatMap (Node.pieces quote)) ++
        [⟨.endOfInput, "", Position.start.after
          (spellingOf (tree.body.flatMap (Node.pieces quote)))⟩]) := by
    simp only [tokenize, Node.source, String.toList_ofList, piecesOf_body chosen printable]
  exact ⟨_, rfl, tokens⟩

end Stencil
