/-! How alike two words are, and the closest of several words. -/

namespace Stencil

/-- The letters of a word, each with the places where it stands, in order. -/
abbrev Places := List (Char × List Nat)

/-- The places of one letter. -/
def Places.of : Places → Char → List Nat
  | [], _ => []
  | (known, places) :: others, letter =>
    if known = letter then places else Places.of others letter

/-- The places with one more before those of a letter. -/
def Places.add : Places → Char → Nat → Places
  | [], letter, place => [(letter, [place])]
  | (known, places) :: others, letter, place =>
    if known = letter then (known, place :: places) :: others
    else (known, places) :: Places.add others letter place

/-- Where the letters of a word stand. -/
def placesOf (word : List Char) : Places :=
  word.zipIdx.foldr (fun (letter, place) places => Places.add places letter place) []

/-- Where blocks may start in a word: in a long one, not at letters that stand in it too often. -/
def seedsOf (word : List Char) : Places :=
  (placesOf word).filter fun entry =>
    word.length < 200 || entry.2.length ≤ word.length / 100 + 1

/-- A letter with the places of another word where it may start a block. -/
structure SeededLetter where
  letter : Char
  seeds : List Nat

/-- The letters of a word with their seeds. -/
def seedLetters (seeds : Places) (word : List Char) : List SeededLetter :=
  word.map fun letter => ⟨letter, seeds.of letter⟩

/-- Letters that two words share in a row, up to a place of the second one. -/
structure SharedRun where
  stop : Nat
  size : Nat

/-- The runs that go on or start at places of a letter, given those that end just before it. -/
def extendRuns : List Nat → List SharedRun → List SharedRun
  | [], _ => []
  | place :: places, before =>
    -- Places are in order, so that a run which stops before this one is not needed again.
    let reached := before.dropWhile fun run => run.stop < place
    let size := match reached with
      | run :: _ => if run.stop = place then run.size else 0
      | [] => 0
    ⟨place + 1, size + 1⟩ :: extendRuns places reached

/-- Two words share a block: where it starts in each, and how long it is. -/
structure SharedBlock where
  left : Nat
  right : Nat
  size : Nat
  deriving DecidableEq

/-- The longer of a block and the runs that end after a place; the earlier one of two equals. -/
def longerRun (start leftStop : Nat) (best : SharedBlock) : List SharedRun → SharedBlock
  | [] => best
  | run :: runs =>
    let better :=
      -- Of runs that are as long the first one is kept.
      if best.size < run.size then ⟨leftStop - run.size, run.stop - start - run.size, run.size⟩
      else best
    longerRun start leftStop better runs

/-- The longest run that two words share between two places of the second one. -/
def longestRun (start stop : Nat) (best : SharedBlock) (leftStop : Nat) (before : List SharedRun) :
    List SeededLetter → SharedBlock
  | [] => best
  | letter :: rest =>
    -- The seeds of a letter are sorted, so those within the bounds are one run of them.
    let runs :=
      extendRuns ((letter.seeds.dropWhile (· < start)).takeWhile (· < stop)) before
    longestRun start stop (longerRun start leftStop best runs) (leftStop + 1) runs rest

/-- How many letters two words have in common at their start. -/
def commonStart : List SeededLetter → List Char → Nat
  | left :: lefts, right :: rights =>
    if left.letter = right then commonStart lefts rights + 1 else 0
  | _, _ => 0

/-- A block made longer at both ends by any equal letters. -/
def SharedBlock.extended (left : List SeededLetter) (right : List Char) (block : SharedBlock) :
    SharedBlock :=
  let back := commonStart (left.take block.left).reverse (right.take block.right).reverse
  let ahead := commonStart (left.drop (block.left + block.size))
    (right.drop (block.right + block.size))
  ⟨block.left - back, block.right - back, back + block.size + ahead⟩

/-- The longest block that two words share, where the second one starts at a place of its own. -/
def longestBlock (left : List SeededLetter) (start : Nat) (right : List Char) : SharedBlock :=
  (longestRun start (start + right.length) ⟨0, 0, 0⟩ 1 [] left).extended left right

/-- How many letters two words share in blocks: the longest, and those on each side of it. -/
def sharedLetters (left : List SeededLetter) (start : Nat) (right : List Char) : Nat :=
  let block := longestBlock left start right
  -- What stands before the block and what stands behind it are shared on their own.
  if 0 < block.size ∧ block.left < left.length then
    sharedLetters (left.take block.left) start (right.take block.right) + block.size +
      sharedLetters (left.drop (block.left + block.size)) (start + block.right + block.size)
        (right.drop (block.right + block.size))
  else 0
termination_by left.length
decreasing_by
  · simp only [List.length_take, block] at *; omega
  · simp only [List.length_drop, block] at *; omega

/-- A candidate for a word, with the number of letters that they share. -/
structure Candidate where
  text : String
  shared : Nat

/-- Whether three fifths of the letters of two words are shared. -/
def enoughShared (wordLength candidateLength shared : Nat) : Bool :=
  3 * (wordLength + candidateLength) ≤ 10 * shared

/-- A text as a candidate for a word, if it is like the word. -/
def candidate? (seeds : Places) (word : List Char) (text : String) : Option Candidate :=
  let letters := text.toList
  -- No more letters are shared than the shorter word has, which settles most texts at once.
  if enoughShared word.length letters.length (min word.length letters.length) then
    let shared := sharedLetters (seedLetters seeds letters) 0 word
    if enoughShared word.length letters.length shared then some ⟨text, shared⟩ else none
  else none

/-- Whether a candidate is closer to a word than another one; of two as close, the greater is. -/
def Candidate.isCloser (wordLength : Nat) (candidate other : Candidate) : Bool :=
  let left := candidate.shared * (wordLength + other.text.length)
  let right := other.shared * (wordLength + candidate.text.length)
  right < left || (left = right && other.text < candidate.text)

/-- The closer one of a candidate and the best so far. -/
def Candidate.better (wordLength : Nat) (best : Option Candidate) (candidate : Candidate) :
    Candidate :=
  match best with
  | none => candidate
  | some other => if candidate.isCloser wordLength other then candidate else other

/-- The text closest to a word among those that are like it. -/
def closest? (word : String) (texts : List String) : Option String :=
  let letters := word.toList
  let seeds := seedsOf letters
  ((texts.filterMap (candidate? seeds letters)).foldl
    (fun best candidate => some (Candidate.better letters.length best candidate)) none).map (·.text)

end Stencil
