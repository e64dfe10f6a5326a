import Stencil.Proofs.DerivedRead
import Stencil.Proofs.ReadingSteps

/-! Readings look one token ahead, and stop at a token only where no other tokens could help. -/

namespace Stencil

/-- The token that a reading stops at: one at fault, or one that is no number of its kind. -/
inductive ParseStop.At : ParseStop → Token → Prop
  | fault (fault : ParseFault) : ParseStop.At (.fault fault) fault.token
  | integer {token : Token} (kind : token.kind = .integer)
    (unread : readInteger? token.value = none) : ParseStop.At (.notInteger token.value) token
  | float {token : Token} (kind : token.kind = .float)
    (unread : readDouble? token.value = none) : ParseStop.At (.notFloat token.value) token

/-- What may stand in the place of the token that a reading stops at: in front of a fault the tokens
go on in some way, and in the place of a number that cannot be read any other one will do. -/
inductive ParseStop.Instead : ParseStop → List Token → Prop
  | fault (fault : ParseFault) : ParseStop.Instead (.fault fault) []
  | integer {token : Token} (text : String) (kind : token.kind = .integer)
    (read : (readInteger? token.value).isSome) : ParseStop.Instead (.notInteger text) [token]
  | float {token : Token} (text : String) (kind : token.kind = .float)
    (read : (readDouble? token.value).isSome) : ParseStop.Instead (.notFloat text) [token]

/-- A reading goes through tokens as a language says. What it takes is of the language, and is taken
again in front of any tokens that start like those that are left. It stops at one token: with others
in its place the language could complete what stands in front of it, and what stands behind it does
not matter. -/
structure Foresees {Meaning : Type} (language : List Token → Meaning → Prop)
    (reader : List Token → Reading (Meaning × List Token)) (tokens : List Token) : Prop where
  -- What was read depends on one token behind it at most.
  taken : ∀ {meaning rest}, reader tokens = .ok (meaning, rest) →
    ∃ words, tokens = words ++ rest ∧ language words meaning ∧
      ∀ others, others.head? = rest.head? → reader (words ++ others) = .ok (meaning, others)
  -- A stop names the earliest token that cannot stand where it does.
  stopped : ∀ {stop}, reader tokens = .error stop → stop ≠ .tokensEnd →
    ∃ before token after, tokens = before ++ token :: after ∧ stop.At token ∧
      (∀ start, stop.Instead start → ∃ more meaning, language (before ++ (start ++ more)) meaning) ∧
      ∀ others, reader (before ++ token :: others) = .error stop

/-- Tokens that start alike do so behind the same tokens. -/
theorem head?_behind {first second : List Token} (same : first.head? = second.head?)
    (front : List Token) : (front ++ first).head? = (front ++ second).head? := by
  -- If there are tokens in front, both sides start with the first of those.
  rw [List.head?_append, List.head?_append, same]

namespace Foresees

section

variable {Meaning Other : Type} {language : List Token → Meaning → Prop}
  {reader : List Token → Reading (Meaning × List Token)} {token : Token} {tokens rest : List Token}
  {meaning : Meaning}

/-- A reading that runs out of tokens has nothing to foresee. -/
theorem ended (out : reader tokens = .error .tokensEnd) : Foresees language reader tokens where
  -- Without a token nothing is read, and the end of the tokens is no refusal.
  taken read := by
    rw [out] at read
    cases read
  stopped failed other := by
    rw [out] at failed
    cases failed
    exact absurd rfl other

/-- A reading that takes the first token looks at no other. -/
theorem take (reads : ∀ others, reader (token :: others) = .ok (meaning, others))
    (spoken : language [token] meaning) : Foresees language reader (token :: rest) where
  -- The reader takes the token whatever follows it, so the token alone is spoken.
  taken read := by
    rw [reads rest] at read
    cases read
    exact ⟨[token], rfl, spoken, fun others _ => reads others⟩
  stopped failed := by
    rw [reads rest] at failed
    cases failed

/-- A reading that leaves the first token looks at no other. -/
theorem leave (reads : ∀ others, reader (token :: others) = .ok (meaning, token :: others))
    (spoken : language [] meaning) : Foresees language reader (token :: rest) where
  taken read := by
    rw [reads rest] at read
    cases read
    refine ⟨[], rfl, spoken, fun others same => ?_⟩
    -- Whatever is put behind starts with the token that is left.
    obtain ⟨more, rfl⟩ := List.head?_eq_some_iff.1 same
    exact reads more
  stopped failed := by
    rw [reads rest] at failed
    cases failed

/-- A reading that stops at the first token foresees it if the language has what could stand there.
-/
theorem halt {stop : ParseStop} (stops : ∀ others, reader (token :: others) = .error stop)
    (named : stop.At token)
    (goes : ∀ start, stop.Instead start → ∃ more meaning, language (start ++ more) meaning) :
    Foresees language reader (token :: rest) where
  -- The reader stops at the token whatever follows it, and what could stand there instead is given.
  taken read := by
    rw [stops rest] at read
    cases read
  stopped failed _ := by
    rw [stops rest] at failed
    cases failed
    exact ⟨[], token, rest, rfl, named, goes, stops⟩

/-- A reading that refuses the first token foresees it if the language says anything at all. -/
theorem refuse (problem : ParseProblem)
    (refuses : ∀ others, reader (token :: others) = Stencil.refuse problem (token :: others))
    {words : List Token} (spoken : language words meaning) :
    Foresees language reader (token :: rest) := by
  -- A refusal leaves any token to stand in its place, and one phrase that could start here is
  -- given.
  refine halt refuses (.fault ⟨problem, token⟩) ?_
  rintro start ⟨⟩
  exact ⟨words, meaning, spoken⟩

/-- A reading that cannot read the first token as an integer foresees any integer in its place. -/
theorem noInteger (kind : token.kind = .integer) (unread : readInteger? token.value = none)
    (stops : ∀ others, reader (token :: others) = .error (.notInteger token.value))
    (spoken : ∀ (other : Token) (number : Int), other.kind = .integer →
      readInteger? other.value = some number → ∃ more meaning, language (other :: more) meaning) :
    Foresees language reader (token :: rest) := by
  -- Another integer in the same place would have been read.
  refine halt stops (.integer kind unread) ?_
  rintro start ⟨⟩
  rename_i other integer read
  obtain ⟨number, found⟩ := Option.isSome_iff_exists.1 read
  exact spoken other number integer found

/-- A reading that cannot read the first token as a double foresees any double in its place. -/
theorem noFloat (kind : token.kind = .float) (unread : readDouble? token.value = none)
    (stops : ∀ others, reader (token :: others) = .error (.notFloat token.value))
    (spoken : ∀ (other : Token) (number : Float), other.kind = .float →
      readDouble? other.value = some number → ∃ more meaning, language (other :: more) meaning) :
    Foresees language reader (token :: rest) := by
  -- Another number in the same place would have been read.
  refine halt stops (.float kind unread) ?_
  rintro start ⟨⟩
  rename_i other float read
  obtain ⟨number, found⟩ := Option.isSome_iff_exists.1 read
  exact spoken other number float found

/-- A reading may be told by another one wherever the first token is the same. -/
theorem congr {other : List Token → Reading (Meaning × List Token)}
    (foresees : Foresees language other tokens)
    (same : ∀ others, others.head? = tokens.head? → reader others = other others) :
    Foresees language reader tokens where
  taken read := by
    rw [same tokens rfl] at read
    obtain ⟨words, split, spoken, again⟩ := foresees.taken read
    refine ⟨words, split, spoken, fun others next => ?_⟩
    rw [same _ (split ▸ head?_behind next words)]
    exact again others next
  stopped failed full := by
    rw [same tokens rfl] at failed
    obtain ⟨before, token, after, split, named, goes, again⟩ := foresees.stopped failed full
    refine ⟨before, token, after, split, named, goes, fun others => ?_⟩
    -- The token is the same, so that the tokens start alike even with none before it.
    rw [same _ (split ▸ head?_behind (List.head?_cons.trans List.head?_cons.symm) before)]
    exact again others

/-- A language may be weakened. -/
theorem imp {weaker : List Token → Meaning → Prop} (foresees : Foresees language reader tokens)
    (weaken : ∀ words meaning, language words meaning → weaker words meaning) :
    Foresees weaker reader tokens where
  -- Only the language is widened: the reader and the token it stops at stay the same.
  taken read := by
    obtain ⟨words, split, spoken, again⟩ := foresees.taken read
    exact ⟨words, split, weaken words _ spoken, again⟩
  stopped failed full := by
    obtain ⟨before, token, after, split, named, goes, again⟩ := foresees.stopped failed full
    refine ⟨before, token, after, split, named, fun start instead => ?_, again⟩
    obtain ⟨more, meaning, spoken⟩ := goes start instead
    exact ⟨more, meaning, weaken _ meaning spoken⟩

/-- A reading behind a token foresees what the reading without the token does. -/
theorem behind (first : Token) (foresees : Foresees language reader rest) :
    Foresees (fun words meaning => ∃ more, words = first :: more ∧ language more meaning)
      (fun tokens => reader tokens.tail) (first :: rest) where
  -- The first token is skipped by the reader and added to everything that is spoken.
  taken read := by
    obtain ⟨words, rfl, spoken, again⟩ := foresees.taken read
    exact ⟨first :: words, rfl, ⟨words, rfl, spoken⟩, again⟩
  stopped failed full := by
    obtain ⟨before, token, after, rfl, named, goes, again⟩ := foresees.stopped failed full
    refine ⟨first :: before, token, after, rfl, named, fun start instead => ?_, again⟩
    obtain ⟨more, meaning, spoken⟩ := goes start instead
    exact ⟨more, meaning, before ++ (start ++ more), rfl, spoken⟩

/-- Readings one after the other foresee what each of them does, if there is always a way to go on
from what the first one takes. -/
theorem bind {follows : Meaning → List Token → Other → Prop}
    {next : Meaning → List Token → Reading (Other × List Token)}
    (first : Foresees language reader tokens)
    (then' : ∀ meaning rest, reader tokens = .ok (meaning, rest) →
      Foresees (follows meaning) (next meaning) rest)
    (goes : ∀ words meaning, language words meaning → ∃ more other, follows meaning more other) :
    Foresees
      (fun words other => ∃ front meaning back, words = front ++ back ∧ language front meaning ∧
        follows meaning back other)
      (fun tokens => reader tokens >>= fun result => next result.1 result.2) tokens where
  taken read := by
    obtain ⟨⟨meaning, behind⟩, head, tail⟩ := bind_eq_ok.1 read
    obtain ⟨front, rfl, spoken, again⟩ := first.taken head
    obtain ⟨back, rfl, followed, further⟩ := (then' meaning behind head).taken tail
    refine ⟨front ++ back, by simp, ⟨front, meaning, back, rfl, spoken, followed⟩, ?_⟩
    intro others same
    simp only [List.append_assoc, again (back ++ others) (head?_behind same back), ok_bind,
      further others same]
  stopped failed full := by
    rcases bind_eq_error.1 failed with head | ⟨⟨meaning, behind⟩, head, tail⟩
    · -- The first one stops, and what it could have taken can be gone on from.
      obtain ⟨before, token, after, rfl, named, complete, again⟩ := first.stopped head full
      refine ⟨before, token, after, rfl, named, fun start instead => ?_, fun others => ?_⟩
      · obtain ⟨more, meaning, spoken⟩ := complete start instead
        obtain ⟨rest, other, followed⟩ := goes _ meaning spoken
        exact ⟨more ++ rest, other, before ++ (start ++ more), meaning, rest, by simp, spoken,
          followed⟩
      · simp only [again others, error_bind]
    · obtain ⟨front, rfl, spoken, again⟩ := first.taken head
      obtain ⟨before, token, after, rfl, named, complete, further⟩ :=
        (then' meaning behind head).stopped tail full
      refine ⟨front ++ before, token, after, by simp, named, fun start instead => ?_,
        fun others => ?_⟩
      · obtain ⟨more, other, followed⟩ := complete start instead
        exact ⟨more, other, front, meaning, before ++ (start ++ more), by simp, spoken, followed⟩
      -- The first one is left with tokens that start alike, up to the one that is stopped at.
      have start : (before ++ token :: others).head? = (before ++ token :: after).head? :=
        head?_behind (List.head?_cons.trans List.head?_cons.symm) before
      simp only [List.append_assoc, again _ start, ok_bind, further others]

/-- What a reading takes may be changed. -/
theorem map (foresees : Foresees language reader tokens) (change : Meaning → Other) :
    Foresees (fun words other => ∃ meaning, language words meaning ∧ other = change meaning)
      (fun tokens => reader tokens >>= fun result => .ok (change result.1, result.2)) tokens where
  -- Changing the meaning adds no token and no refusal.
  taken read := by
    obtain ⟨⟨meaning, behind⟩, head, same⟩ := bind_eq_ok.1 read
    cases same
    obtain ⟨words, split, spoken, again⟩ := foresees.taken head
    exact ⟨words, split, ⟨meaning, spoken, rfl⟩, fun others next => by
      simp only [again others next, ok_bind]⟩
  stopped failed full := by
    rcases bind_eq_error.1 failed with head | ⟨_, _, impossible⟩
    · obtain ⟨before, token, after, split, named, goes, again⟩ := foresees.stopped head full
      refine ⟨before, token, after, split, named, fun start instead => ?_, fun others => by
        simp only [again others, error_bind]⟩
      obtain ⟨more, meaning, spoken⟩ := goes start instead
      exact ⟨more, _, meaning, spoken, rfl⟩
    · cases impossible

end

end Foresees

/-- A token of a kind, with nothing in it. -/
def blankToken (kind : TokenKind) : Token :=
  ⟨kind, "", .start⟩

/-- A word as a token. -/
def wordToken (word : String) : Token :=
  ⟨.name, word, .start⟩

/-- A string is an expression by itself. -/
theorem blankToken_expression :
    Derives [blankToken .string] (.expression (.constant .start (.text ""))) :=
  .primary (.string rfl)

section

variable {Meaning : Type} {tokens : List Token}

/-- A token of one kind, behind which a reading is done, is taken or refused. -/
theorem closing_foresees {kind : TokenKind} {problem : ParseProblem}
    {ends : List Token → Reading (List Token)} (nothing : ends [] = .error .tokensEnd)
    (one : ∀ token rest, ends (token :: rest) =
      if token.kind = kind then .ok rest else refuse problem (token :: rest))
    (meaning : Meaning) (tokens : List Token) :
    Foresees (fun words other => other = meaning ∧ ∃ closing, words = [closing] ∧
        closing.kind = kind)
      (fun tokens => ends tokens >>= fun rest => .ok (meaning, rest)) tokens := by
  -- The reader looks at one token: the closer is taken, any other token is refused where the closer
  -- could stand.
  cases tokens with
  | nil => exact .ended (by rw [nothing, error_bind])
  | cons token rest =>
    by_cases closed : token.kind = kind
    · exact .take (fun others => by rw [one, if_pos closed, ok_bind]) ⟨rfl, token, rfl, closed⟩
    · refine .refuse problem (fun others => ?_) ⟨rfl, blankToken kind, rfl, rfl⟩
      rw [one, if_neg closed]
      rfl

end

end Stencil
