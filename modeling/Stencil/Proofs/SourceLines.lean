import Stencil.Proofs.ReadDerived

/-! The nodes of a source stand on lines that are counted from one. -/

namespace Stencil

/-- No stretch of text leads back to an earlier line. -/
theorem Position.line_le_after (position : Position) (text : List Char) :
    position.line ≤ (position.after text).line := by
  induction text generalizing position with
  | nil => exact Int.le_refl _
  | cons char rest ih =>
    simp only [Position.after]
    -- A line feed leads to the next line, and any other character stays on its line.
    split
    · have next := ih ⟨position.line + 1, 0⟩
      simp only at next
      omega
    · exact ih ⟨position.line, position.column + 1⟩

/-- Tokens stand on the line where their pieces start, or behind it. -/
theorem placeTokens_line {position : Position} {pieces : List Piece} {token : Token}
    (member : token ∈ placeTokens position pieces) : position.line ≤ token.position.line := by
  -- Induction on the pieces: the line of the place only grows.
  induction pieces generalizing position with
  | nil => simp [placeTokens] at member
  | cons piece pieces ih =>
    cases piece with
    | gap spelling => exact Int.le_trans (position.line_le_after spelling) (ih member)
    | token kind spelling value =>
      simp only [placeTokens, List.mem_cons] at member
      rcases member with rfl | member
      · exact Int.le_refl _
      · exact Int.le_trans (position.line_le_after spelling) (ih member)

/-- The tokens of a source stand on lines from one on. -/
theorem tokenize_line {source : String} {tokens : List Token}
    (cut : tokenize source = .ok tokens) {token : Token} (member : token ∈ tokens) :
    0 < token.position.line := by
  have first : Position.start.line = 1 := rfl
  unfold tokenize at cut
  simp only at cut
  split at cut
  · cases cut
  · cases cut
    simp only [List.mem_append, List.mem_singleton] at member
    rcases member with member | rfl
    · have later := placeTokens_line member
      omega
    · -- The end of the text is not in front of its start.
      have later := Position.start.line_le_after (spellingOf (piecesOf .text source.toList).1)
      simp only
      omega

/-- A node of a body stands where one of its tokens does. -/
theorem DerivesNode.place {words : List Token} {node : Node} (found : DerivesNode words node) :
    ∃ token ∈ words, node.position = token.position := by
  cases found with
  | data kind => exact ⟨_, by simp, rfl⟩
  | output opened found closed => exact ⟨_, by simp, rfl⟩
  | block opened tag closed =>
    -- A component stands where the name of its tag does.
    cases tag with
    | @component keyword => exact ⟨keyword, by simp, rfl⟩
    | @view keyword => exact ⟨keyword, by simp, rfl⟩

/-- The nodes of a body stand on the lines of its tokens. -/
theorem DerivesBody.lines {words : List Token} {nodes : List Node} (body : DerivesBody words nodes)
    (lines : ∀ token ∈ words, 0 < token.position.line) : ∀ node ∈ nodes, 0 < node.line := by
  -- Each node stands at a token of its own.
  induction body with
  | ended => simp
  | node found _ ih =>
    intro node member
    rcases List.mem_cons.1 member with rfl | member
    · obtain ⟨token, among, place⟩ := found.place
      rw [Node.line, place]
      exact lines token (by simp [among])
    · exact ih (fun token among => lines token (by simp [among])) node member

/-- The nodes of a source stand on lines from one on. -/
theorem readTemplate_lines {name file : Option String} {source : String} {tree : Node}
    (read : readTemplate name file source = .ok tree) : ∀ node ∈ tree.body, 0 < node.line := by
  -- The source is cut into tokens, from which the body is derived.
  obtain ⟨tokens, cut, made⟩ := readTemplate_tokens.1 read
  obtain ⟨nodes, body, rfl⟩ := map_eq_ok.1 made
  obtain ⟨words, left, rfl, derived⟩ := bodyWithin_derived body
  exact derived.lines fun token member => tokenize_line cut (by simp [member])

end Stencil
