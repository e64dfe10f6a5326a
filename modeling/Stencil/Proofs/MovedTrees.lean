import Stencil.Proofs.Extraction
import Stencil.Proofs.Interpretation
import Stencil.Proofs.PrintedSource

/-! Trees at other places: what they are derived from, and what their places have no part in. -/

namespace Stencil

/-- A token at another place. -/
def Token.moved (move : Position → Position) (token : Token) : Token :=
  { token with position := move token.position }

mutual

/-- A tree with all of its nodes at other places. -/
def Node.moved (move : Position → Position) : Node → Node
  | .constant position value => .constant (move position) value
  | .name position word => .name (move position) word
  | .member position object word => .member (move position) (object.moved move) word
  | .list position items => .list (move position) (Node.allMoved move items)
  | .hash position keys values =>
    .hash (move position) (Node.allMoved move keys) (Node.allMoved move values)
  | .data position text => .data (move position) text
  | .output position expression => .output (move position) (expression.moved move)
  -- Data is matched here, so that the recursion is seen to go into parts of the node.
  | .component position called variant none only =>
    .component (move position) (called.moved move) variant none only
  | .component position called variant (some given) only =>
    .component (move position) (called.moved move) variant (some (given.moved move)) only
  | .template position body => .template (move position) (Node.allMoved move body)

/-- Trees with all of their nodes at other places. -/
def Node.allMoved (move : Position → Position) : List Node → List Node
  | [] => []
  | node :: nodes => node.moved move :: Node.allMoved move nodes

end

/-- A phrase with all of its nodes at other places. -/
def Phrase.moved (move : Position → Position) : Phrase → Phrase
  | .primary node => .primary (node.moved move)
  | .expression node => .expression (node.moved move)
  | .items nodes => .items (Node.allMoved move nodes)
  | .pairs keys values => .pairs (Node.allMoved move keys) (Node.allMoved move values)

section

variable (move : Position → Position) {words : List Token}

/-- Each of many nodes is moved. -/
theorem Node.allMoved_eq (nodes : List Node) :
    Node.allMoved move nodes = nodes.map (Node.moved move) := by
  -- The helper of the recursion moves one node after the other, as a map does.
  induction nodes with
  | nil => rfl
  | cons node nodes ih => simp only [Node.allMoved, List.map_cons, ih]

/-- The data of a component is moved if there is any. -/
theorem Node.moved_component (position : Position) (called : Node)
    (variant : Option String) (data : Option Node) (only : Bool) :
    (Node.component position called variant data only).moved move =
      .component (move position) (called.moved move) variant (data.map (Node.moved move)) only := by
  -- A component is moved by two equations, one with data and one without.
  cases data <;> rfl

/-- A node stands where its place is moved to. -/
@[simp] theorem Node.moved_position (node : Node) :
    (node.moved move).position = move node.position := by
  -- Every kind of node keeps its place in its first field.
  cases node with
  | component position called variant data only => rw [moved_component]; rfl
  | _ => rfl

/-- The body of a moved tree has its nodes moved. -/
theorem Node.moved_body (move : Position → Position) (node : Node) :
    (node.moved move).body = node.body.map (Node.moved move) := by
  -- Only a template has a body, and any other node has none before and after.
  cases node with
  | template position nodes => exact allMoved_eq move nodes
  | component position called variant data only => rw [moved_component]; rfl
  | _ => rfl

/-- A moved token has the same value. -/
@[simp] theorem Token.moved_value (token : Token) :
    (token.moved move).value = token.value := rfl

/-- A moved token stands where its place is moved to. -/
@[simp] theorem Token.moved_position (token : Token) :
    (token.moved move).position = move token.position := rfl

/-- A moved token is the key of a moved constant. -/
theorem Token.KeyOf.moved {token : Token} {key : Node} (named : token.KeyOf key) :
    (token.moved move).KeyOf (key.moved move) := by
  -- Neither rule for keys looks at a place.
  cases named with
  | word kind => exact .word kind
  | integer kind read => exact .integer kind read

/-- What is derived from tokens is derived at another place from moved tokens. -/
theorem Derives.moved {phrase : Phrase} (derived : Derives words phrase) :
    Derives (words.map (Token.moved move)) (phrase.moved move) := by
  -- No rule asks for the place of a token.
  induction derived with
  | string kind => exact .string kind
  | integer kind read => exact .integer kind read
  | float kind read => exact .float kind read
  | wordTrue named => exact .wordTrue named
  | wordFalse named => exact .wordFalse named
  | wordNull named => exact .wordNull named
  | name kind free => exact .name kind free
  | @list opening closing words nodes opened _ closed ih =>
    have found := Derives.list (show (opening.moved move).kind = _ from opened) ih
      (show (closing.moved move).kind = _ from closed)
    simpa [Phrase.moved, Node.moved] using found
  | @hash opening closing words keys values opened _ closed ih =>
    have found := Derives.hash (show (opening.moved move).kind = _ from opened) ih
      (show (closing.moved move).kind = _ from closed)
    simpa [Phrase.moved, Node.moved] using found
  | primary _ ih => exact .primary ih
  | @member words object dot name _ dotted named ih =>
    have found := Derives.member ih (show (dot.moved move).kind = _ from dotted)
      (show (name.moved move).kind = _ from named)
    simpa [Phrase.moved, Node.moved] using found
  | noItems => exact .noItems
  | lastItem _ ih => exact .lastItem ih
  | @item words others comma node nodes _ separated _ ih ihOthers =>
    have found := Derives.item ih (show (comma.moved move).kind = _ from separated) ihOthers
    simpa [Phrase.moved, Node.allMoved] using found
  | noPairs => exact .noPairs
  | @lastPair token colon words key value named assigned _ ih =>
    exact .lastPair (named.moved move) (show (colon.moved move).kind = _ from assigned) ih
  | @pair token colon comma words others key value keys values named assigned _ separated _ ih
      ihOthers =>
    have found := Derives.pair (named.moved move)
      (show (colon.moved move).kind = _ from assigned) ih
      (show (comma.moved move).kind = _ from separated) ihOthers
    simpa [Phrase.moved, Node.allMoved] using found

/-- A variant has no place. -/
theorem DerivesVariant.moved {variant : Option String} (varied : DerivesVariant words variant) :
    DerivesVariant (words.map (Token.moved move)) variant := by
  -- A variant is told by the kind of its token, which stays.
  cases varied with
  | none => exact .none
  | @some token kind => exact .some (show (token.moved move).kind = _ from kind)

/-- The word that cuts off a context has no place. -/
theorem DerivesOnly.moved {only : Bool} (ended : DerivesOnly words only) :
    DerivesOnly (words.map (Token.moved move)) only := by
  -- The word is told by kind and value, neither of which is moved.
  cases ended with
  | absent => exact .absent
  | @present token named => exact .present (show (token.moved move).isWord _ from named)

/-- The data of a component is derived at another place from moved tokens. -/
theorem DerivesData.moved {data : Option Node} (supplied : DerivesData words data) :
    DerivesData (words.map (Token.moved move)) (data.map (Node.moved move)) := by
  -- The word stays one, and the expression behind it is moved as a whole.
  cases supplied with
  | none => exact .none
  | @some keyword _ _ named found =>
    exact .some (show (keyword.moved move).isWord _ from named) (found.moved move)

/-- The data of a view is derived at another place from moved tokens. -/
theorem DerivesViewData.moved {data : Option Node} (supplied : DerivesViewData words data) :
    DerivesViewData (words.map (Token.moved move)) (data.map (Node.moved move)) := by
  -- What is no such word stays none, so that the data is still taken for data.
  cases supplied with
  | none => exact .none
  | @some first _ _ other found =>
    exact .some (show ¬ (first.moved move).isWord _ from other) (found.moved move)

/-- A block tag is derived at another place from moved tokens. -/
theorem DerivesTag.moved {node : Node} (tag : DerivesTag words node) :
    DerivesTag (words.map (Token.moved move)) (node.moved move) := by
  -- Each part of the tag is derived from its moved tokens, and the node is at the place of its
  -- keyword.
  cases tag with
  | @component keyword _ _ _ _ _ _ _ _ named found varied supplied ended =>
    have moved := DerivesTag.component (show (keyword.moved move).isWord _ from named)
      (found.moved move) (varied.moved move) (supplied.moved move) (ended.moved move)
    simpa [Node.moved_component] using moved
  | @view keyword _ _ _ _ _ _ named found supplied ended =>
    have moved := DerivesTag.view (show (keyword.moved move).isWord _ from named)
      (found.moved move) (supplied.moved move) (ended.moved move)
    simpa [Node.moved_component] using moved

/-- A node of a body is derived at another place from moved tokens. -/
theorem DerivesNode.moved {node : Node} (found : DerivesNode words node) :
    DerivesNode (words.map (Token.moved move)) (node.moved move) := by
  -- The delimiters are told by their kinds, and what stands between them is moved on its own.
  cases found with
  | @data token kind => exact .data (show (token.moved move).kind = _ from kind)
  | @output opening closing _ _ opened found closed =>
    have moved := DerivesNode.output (show (opening.moved move).kind = _ from opened)
      (found.moved move) (show (closing.moved move).kind = _ from closed)
    simpa [Node.moved] using moved
  | @block opening closing _ _ opened tag closed =>
    have moved := DerivesNode.block (show (opening.moved move).kind = _ from opened)
      (tag.moved move) (show (closing.moved move).kind = _ from closed)
    simpa using moved

/-- A body is derived at another place from moved tokens. -/
theorem DerivesBody.moved {nodes : List Node} (body : DerivesBody words nodes) :
    DerivesBody (words.map (Token.moved move)) (nodes.map (Node.moved move)) := by
  -- The induction is on the body, whose nodes take up separate stretches of tokens.
  induction body with
  | @ended token kind => exact .ended (show (token.moved move).kind = _ from kind)
  | node found _ ih =>
    rw [List.map_append]
    exact .node (found.moved move) ih

end

mutual

/-- A node that is moved nowhere stays as it is. -/
theorem Node.moved_id : ∀ node : Node, node.moved id = node
  -- The induction follows the tree, and leaves every place as it is.
  | .constant _ _ | .name _ _ | .data _ _ => rfl
  | .member _ object _ => by simp only [Node.moved, Node.moved_id object, id]
  | .list _ items => by simp only [Node.moved, Node.allMoved_id items, id]
  | .hash _ keys values => by
    simp only [Node.moved, Node.allMoved_id keys, Node.allMoved_id values, id]
  | .output _ expression => by simp only [Node.moved, Node.moved_id expression, id]
  | .component _ called _ none _ => by simp only [Node.moved, Node.moved_id called, id]
  | .component _ called _ (some given) _ => by
    simp only [Node.moved, Node.moved_id called, Node.moved_id given, id]
  | .template _ body => by simp only [Node.moved, Node.allMoved_id body, id]

/-- Nodes that are moved nowhere stay as they are. -/
theorem Node.allMoved_id : ∀ nodes : List Node, Node.allMoved id nodes = nodes
  | [] => rfl
  | node :: nodes => by simp only [Node.allMoved, Node.moved_id node, Node.allMoved_id nodes]

end

section

variable (move again : Position → Position)

mutual

/-- A node that is moved twice might as well be moved at once. -/
theorem Node.moved_moved : ∀ node : Node,
    (node.moved move).moved again = node.moved (again ∘ move)
  -- The induction follows the tree; each place is moved twice, one move after the other.
  | .constant _ _ | .name _ _ | .data _ _ => rfl
  | .member _ object _ => by simp only [Node.moved, Node.moved_moved object, Function.comp]
  | .list _ items => by simp only [Node.moved, Node.allMoved_moved items, Function.comp]
  | .hash _ keys values => by
    simp only [Node.moved, Node.allMoved_moved keys, Node.allMoved_moved values, Function.comp]
  | .output _ expression => by simp only [Node.moved, Node.moved_moved expression, Function.comp]
  | .component _ called _ none _ => by
    simp only [Node.moved, Node.moved_moved called, Function.comp]
  | .component _ called _ (some given) _ => by
    simp only [Node.moved, Node.moved_moved called, Node.moved_moved given, Function.comp]
  | .template _ body => by simp only [Node.moved, Node.allMoved_moved body, Function.comp]

/-- Nodes that are moved twice might as well be moved at once. -/
theorem Node.allMoved_moved : ∀ nodes : List Node,
    Node.allMoved again (Node.allMoved move nodes) = Node.allMoved (again ∘ move) nodes
  -- One node after the other is moved twice.
  | [] => rfl
  | node :: nodes => by
    simp only [Node.allMoved, Node.moved_moved node, Node.allMoved_moved nodes]

end

end

mutual

/-- A tree without places is one that has all of its nodes at the start. -/
theorem Node.moved_start : ∀ node : Node, node.moved (fun _ => .start) = node.unplaced
  -- Taking places away is the move that puts all of them at the start.
  | .constant _ _ | .name _ _ | .data _ _ => rfl
  | .member _ object _ => by simp only [Node.moved, Node.unplaced, Node.moved_start object]
  | .list _ items => by simp only [Node.moved, Node.unplaced, Node.allMoved_start items]
  | .hash _ keys values => by
    simp only [Node.moved, Node.unplaced, Node.allMoved_start keys, Node.allMoved_start values]
  | .output _ expression => by
    simp only [Node.moved, Node.unplaced, Node.moved_start expression]
  | .component _ called _ none _ => by
    simp only [Node.moved, Node.unplaced, Node.moved_start called]
  | .component _ called _ (some given) _ => by
    simp only [Node.moved, Node.unplaced, Node.moved_start called, Node.moved_start given]
  | .template _ body => by simp only [Node.moved, Node.unplaced, Node.allMoved_start body]

/-- Trees without places are those that have all of their nodes at the start. -/
theorem Node.allMoved_start : ∀ nodes : List Node,
    Node.allMoved (fun _ => .start) nodes = Node.allUnplaced nodes
  -- One node after the other loses its place.
  | [] => rfl
  | node :: nodes => by
    simp only [Node.allMoved, Node.allUnplaced, Node.moved_start node, Node.allMoved_start nodes]

end

/-- Wherever a tree is moved, it is the same without places. -/
theorem Node.moved_unplaced (move : Position → Position) (node : Node) :
    (node.moved move).unplaced = node.unplaced := by
  -- Whatever the first move does, the move to the start takes it back.
  rw [← Node.moved_start, Node.moved_moved, ← Node.moved_start]
  rfl

/-- Trees that are the same without places are the same once they are all at one place. -/
theorem Node.moved_of_unplaced {node other : Node} (same : node.unplaced = other.unplaced)
    (place : Position) : node.moved (fun _ => place) = other.moved (fun _ => place) := by
  -- A move to one place forgets where a node has been, as taking places away does.
  have again (node : Node) : node.moved (fun _ => place) =
      node.unplaced.moved (fun _ => place) := by
    rw [← Node.moved_start, Node.moved_moved]
    rfl
  rw [again node, again other, same]

section

variable {move : Position → Position} {read : String → Except Failure Value}

mutual

/-- The value of an expression does not depend on its place. -/
theorem Node.moved_value : ∀ node : Node, (node.moved move).value read = node.value read
  -- The induction follows the expression, none of whose values depends on a place.
  | .constant _ _ | .name _ _ => rfl
  | .member _ object _ => by
    simp only [Node.moved, Node.value, Node.moved_value object]
  | .list _ items => by
    simp only [Node.moved, Node.value, Node.allMoved_values items]
  | .hash _ keys values => by
    simp only [Node.moved, Node.value, Node.allMoved_values keys, Node.allMoved_values values]
    rw [Node.allMoved_eq, List.length_map]
  | .component _ _ _ none _ | .component _ _ _ (some _) _ => rfl
  | .data _ _ | .output _ _ | .template _ _ => rfl

/-- The values of expressions do not depend on their places. -/
theorem Node.allMoved_values : ∀ nodes : List Node,
    Node.values read (Node.allMoved move nodes) = Node.values read nodes
  -- The values of several expressions are those of each of them.
  | [] => rfl
  | node :: nodes => by
    simp only [Node.allMoved, Node.values, Node.moved_value node, Node.allMoved_values nodes]

end

/-- The text of an expression does not depend on its place. -/
theorem Node.moved_printed (node : Node) : (node.moved move).printed read = node.printed read := by
  -- The value is the same, so its text is.
  simp only [Node.printed, Node.moved_value]

/-- The entries of data do not depend on its place. -/
theorem dataEntries_moved (data : Option Node) :
    dataEntries read (data.map (Node.moved move)) = dataEntries read data := by
  -- Data adds the entries of its value, which has no place.
  cases data with
  | none => rfl
  | some node => simp only [Option.map_some, dataEntries, Node.moved_value]

/-- A constant text names a component from any place. -/
theorem Node.moved_knownName (node : Node) : (node.moved move).knownName? = node.knownName? := by
  -- A name is known if it is a text, wherever that stands.
  cases node with
  | constant position value => cases value <;> rfl
  | component position called variant data only => rw [moved_component]; rfl
  | _ => rfl

/-- Constants among classes and modifiers have the same texts at any place. -/
theorem styleItems_moved (key : String) (items : List Node) :
    styleItems key (items.map (Node.moved move)) = styleItems key items := by
  -- Items are styled in order, each as a constant or not at all.
  induction items with
  | nil => rfl
  | cons item items ih =>
    cases item with
    | constant position value => simp only [List.map_cons, Node.moved, styleItems, ih]
    | component position called variant data only =>
      rw [List.map_cons, Node.moved_component]
      rfl
    | _ => rfl

/-- Classes and modifiers have the same texts at any place. -/
theorem textsUnder_moved (key : String) (value : Node) :
    textsUnder key (value.moved move) = textsUnder key value := by
  -- The shape of a value is told without its place: one constant, a list of them, or neither.
  cases value with
  | list position items =>
    simp only [Node.moved, textsUnder, classify, Node.allMoved_eq, styleItems_moved]
  | component position called variant data only =>
    rw [Node.moved_component]
    rfl
  | _ => rfl

/-- A pair gives the same styling at any place. -/
theorem pairStyling_moved (key value : Node) :
    pairStyling (key.moved move) (value.moved move) = pairStyling key value := by
  cases key with
  | constant position constant =>
    simp only [Node.moved, pairStyling, textsUnder_moved]
    -- The place is in no pattern, so that both sides go by the constant.
    split <;> simp_all
  | component position called variant data only =>
    rw [Node.moved_component]
    rfl
  | _ => rfl

/-- Data gives the same styling at any place. -/
theorem stylingOf_moved (data : Option Node) :
    stylingOf (data.map (Node.moved move)) = stylingOf data := by
  -- Pairs are styled in order, and each by its key and its value alone.
  have pairs (keys values : List Node) : pairsStyling (keys.map (Node.moved move))
      (values.map (Node.moved move)) = pairsStyling keys values := by
    induction keys generalizing values with
    | nil => cases values <;> rfl
    | cons key keys ih =>
      cases values with
      | nil => rfl
      | cons value values =>
        simp only [List.map_cons, pairsStyling, pairStyling_moved, ih]
  cases data with
  | none => rfl
  | some node =>
    cases node with
    | hash position keys values =>
      simp only [Option.map_some, Node.moved, stylingOf, Node.allMoved_eq, pairs]
    | component position called variant data only =>
      rw [Option.map_some, Node.moved_component]
      rfl
    | _ => rfl

end

section

variable (move : Position → Position)

/-- A node is of the same kind at any place. -/
theorem Node.moved_kindName (node : Node) : (node.moved move).kindName = node.kindName := by
  -- A move changes no kind of node.
  cases node with
  | component position called variant data only => rw [moved_component]; rfl
  | _ => rfl

/-- A constant has its value at any place. -/
theorem Node.moved_constant (node : Node) : (node.moved move).constant? = node.constant? := by
  -- A constant is moved with the value that it stands for.
  cases node with
  | component position called variant data only => rw [moved_component]; rfl
  | _ => rfl

/-- A key is wanted at any place. -/
theorem Node.moved_keyAmong (wanted : List String) (node : Node) :
    (node.moved move).keyAmong? wanted = node.keyAmong? wanted := by
  -- A key is compared by its text.
  cases node with
  | constant position value => cases value <;> rfl
  | component position called variant data only => rw [moved_component]; rfl
  | _ => rfl

/-- A value of classes or modifiers has the same problem at any place. -/
theorem Node.moved_styleProblem (key : String) (node : Node) :
    (node.moved move).styleProblem? key = node.styleProblem? key := by
  -- The first item that is no constant stays the first, and of the same kind.
  cases node with
  | list position items =>
    simp only [moved, styleProblem?, allMoved_eq, List.find?_map, Option.map_map,
      Function.comp_def, moved_constant, moved_kindName]
  | component position called variant data only => rw [moved_component]; rfl
  | _ => rfl

/-- A pair has the same problem at any place. -/
theorem pairProblem?_moved (pair : Node × Node) :
    pairProblem? (pair.1.moved move, pair.2.moved move) = pairProblem? pair := by
  -- Keys and styles are told by their constants.
  simp only [pairProblem?, Node.moved_keyAmong, Node.moved_styleProblem]

/-- Data has the same problem at any place. -/
theorem dataProblem?_moved (data : Option Node) :
    dataProblem? (data.map (Node.moved move)) = dataProblem? data := by
  -- The first pair with a problem stays the first, as each pair is judged by itself.
  cases data with
  | none => rfl
  | some node =>
    cases node with
    | hash position keys values =>
      simp only [Option.map_some, Node.moved, dataProblem?, Node.allMoved_eq, List.zip_map,
        List.findSome?_map, Function.comp_def, Prod.map, pairProblem?_moved]
    | component position called variant data only => rw [Option.map_some, Node.moved_component]; rfl
    | _ => rfl

/-- A name is described alike at any place. -/
theorem Node.moved_describe (node : Node) : (node.moved move).describe = node.describe := by
  -- The induction follows the description, which goes down a chain of members to its name.
  induction node using Node.describe.induct with
  | case2 position object word ih => simp only [moved, describe, ih]
  | case5 position value other => cases value <;> rfl
  | case6 node =>
    cases node with
    | component position called variant data only => rw [moved_component]; rfl
    | _ => first | rfl | simp_all
  | _ => rfl

end

/-- The text of a node in a frame that has reached its line. -/
def Script.textAt {Loaded : Type} (script : Script) (around : Surroundings Loaded) (frame : Frame)
    (context : Dict) : Node → Except Failure String
  | .data _ text => .ok text
  | .output _ expression => script.located frame (expression.printed (around.lookup frame context))
  | .component _ name variant data only =>
    script.located frame (around.component script.site frame context name variant data only)
  | _ => .ok ""

section

variable {Loaded : Type} {around : Surroundings Loaded} {script : Script} {frame : Frame}
  {context : Dict}

/-- A node has its text on its own line. -/
theorem nodeText_textAt (node : Node) : script.nodeText around frame context node =
    script.textAt around (frame.atLine node.line) context node := by
  -- The parts are the same, and the line is either taken from the node or given.
  cases node <;> rfl

/-- A component is the same at any place, once a line is reached. -/
theorem component_moved (move : Position → Position) (site : Site) (name : Node)
    (variant : Option String) (data : Option Node) (only : Bool) :
    around.component site frame context (name.moved move) variant (data.map (Node.moved move))
        only =
      around.component site frame context name variant data only := by
  -- All that a component is invoked with is told without places but the line, which is that of the
  -- frame.
  simp only [Surroundings.component, Surroundings.summon, Surroundings.pathOf, Site.mergeBase,
    Site.styling, Node.moved_printed, Node.moved_knownName, dataEntries_moved, stylingOf_moved]

/-- A node has the same text at any place, once a line is reached. -/
theorem textAt_moved (move : Position → Position) (node : Node) :
    script.textAt around frame context (node.moved move) =
      script.textAt around frame context node := by
  -- The line is given by the frame here, so that the node adds none of its own.
  cases node with
  | output position expression => simp only [Node.moved, Script.textAt, Node.moved_printed]
  | component position name variant data only =>
    rw [Node.moved_component]
    simp only [Script.textAt, component_moved]
  | _ => rfl

/-- Nodes have the same texts at other places, if these are on the same lines. -/
theorem bodyText_moved {move : Position → Position}
    (lines : ∀ place, (move place).line = place.line) (nodes : List Node) :
    script.bodyText around frame context (nodes.map (Node.moved move)) =
      script.bodyText around frame context nodes := by
  -- A node is rendered on its line, and that is kept.
  induction nodes with
  | nil => rfl
  | cons node nodes ih =>
    simp only [List.map_cons, Script.bodyText, nodeText_textAt, textAt_moved, Node.line,
      Node.moved_position, lines, ih]

end

end Stencil
