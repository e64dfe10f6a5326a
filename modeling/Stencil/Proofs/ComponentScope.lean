import Stencil.Proofs.Layers
import Stencil.Proofs.Parts

/-! What a component sees: its fields, its data, and the context of its caller, in that order. -/

namespace Stencil

/-- The entries of the dictionary that a render is given, if it is given any. -/
def givenEntries : List Value → Dict
  | [.dict entries] => entries
  | _ => []

/-- In a root context named arguments lie over the argument, and that lies over the globals. -/
theorem rootContext_valueAt? {globals keywords context : Dict} {arguments : List Value}
    (rooted : rootContext globals arguments keywords = .ok context) (key : Value) :
    Dict.valueAt? context key = (Dict.lastAt? keywords key).or
      ((Dict.lastAt? (givenEntries arguments) key).or (Dict.valueAt? globals key)) := by
  -- The layers are merged in their order, and a later one hides what an earlier one has.
  unfold rootContext at rooted
  split at rooted
  · cases rooted
    rw [Dict.valueAt?_merge]
    rfl
  · cases rooted
    rw [Dict.valueAt?_merge, Dict.valueAt?_merge]
    rfl
  · cases rooted

/-- A root context has no key twice, if the globals have none. -/
theorem rootContext_distinct {globals keywords context : Dict} {arguments : List Value}
    (distinct : Dict.Distinct globals)
    (rooted : rootContext globals arguments keywords = .ok context) : Dict.Distinct context := by
  -- Each merge keeps keys distinct.
  unfold rootContext at rooted
  split at rooted
  · cases rooted
    exact distinct.merge keywords
  · rename_i entries
    cases rooted
    exact (distinct.merge entries).merge keywords
  · cases rooted

/-- A script that is loaded can be made into a template. -/
theorem script_isOf {environment : Environment} {path : String} {script : Script}
    (loaded : environment.script path = .ok script) :
    ∃ template, Template.IsOf template script := by
  -- A script is loaded only if its template was compiled.
  obtain ⟨_, _, template, _, _, _, compiled⟩ := Environment.script_eq_ok.1 loaded
  exact ⟨template, compiled⟩

namespace Activation

section

variable {environment : Environment} {active last : Activation} {node : Node} {callers : Callers}

/-- The context of a component has no key twice. -/
theorem effect_distinct {component : Script} {inner : Dict}
    (opened : active.effect environment node = .ok (.opens component inner)) :
    Dict.Distinct inner := by
  obtain ⟨position, name, variant, data, only, _, invoked⟩ := effect_opens opened
  obtain ⟨word, base, styling, _, _, merged, _, same⟩ := invocation_eq_ok.1 invoked
  -- The fields are laid over a base whose keys are apart already.
  have laid : inner = componentContext word (styling.named word) base := same
  rw [laid]
  exact (Site.mergeBase_distinct merged).merge _

/-- Whatever is entered has a context in which no key stands twice. -/
theorem Enters.distinct (entered : active.Enters environment callers last)
    (distinct : Dict.Distinct active.context) : Dict.Distinct last.context := by
  -- Induction along the entered components: each invocation makes its context by merging.
  induction entered with
  | here active => exact distinct
  | through reached opened _ ih => exact ih (effect_distinct (step_opens.1 opened).1)

/-- Whatever is entered can be made into a template. -/
theorem Enters.made (entered : active.Enters environment callers last)
    (made : ∃ template, Template.IsOf template active.script) :
    ∃ template, Template.IsOf template last.script :=
  -- All scripts that are entered were loaded.
  entered.holds (fun _ _ loaded => script_isOf loaded) made

/-- A component is opened in the scope of its name, its data and its caller. -/
theorem effect_scope (distinct : Dict.Distinct active.context) {position : Position} {name : Node}
    {variant : Option String} {data : Option Node} {only : Bool} {component : Script} {inner : Dict}
    (opened : active.effect environment (.component position name variant data only) =
      .ok (.opens component inner)) :
    let read := lookupIn active.script.strict (active.frame.atLine position.line) active.context
    ∃ word styling pairs, name.printed read = .ok word ∧ stylingOf data = .ok styling ∧
      DataPairs read data pairs ∧ inner.IsScope word (styling.named word) pairs fun key =>
        if active.script.site.cutsOff only then none else Dict.valueAt? active.context key := by
  -- The invocation merges the data over the base and lays the fields of the component on top.
  intro read
  have invoked := effect_component.1 opened
  obtain ⟨word, base, styling, named, _, merged, styled, same⟩ := invocation_eq_ok.1 invoked
  obtain ⟨pairs, evaluated, under⟩ := Site.mergeBase_valueAt? distinct styled merged
  refine ⟨word, styling, pairs, named, styled, evaluated, ?_⟩
  have laid : inner = componentContext word (styling.named word) base := same
  rw [laid]
  exact componentContext_scope word (styling.named word) under

end

end Activation

/-- In a render, named arguments lie over the argument and that over the globals; each component
sees its fields over its data over what it is let see of its caller, and leaves its caller alone. -/
theorem render_scope (maker environment : Environment)
    (distinct : Dict.Distinct environment.globals) {tree : Node}
    {title file source : Option String} {template : Template}
    (made : maker.ofTree tree title file source = .ok template) {arguments : List Value}
    {keywords context : Dict} (named : checkKeywords keywords = .ok ())
    (rooted : rootContext environment.globals arguments keywords = .ok context) :
    let root := environment.root (maker.scriptOf tree title file source) context
    -- A render starts in its root context, where later layers win.
    template.render (some environment) arguments keywords = root.text environment ∧
    (∀ key, Dict.valueAt? context key = (Dict.lastAt? keywords key).or
      ((Dict.lastAt? (givenEntries arguments) key).or
        (Dict.valueAt? environment.globals key))) ∧
    ∀ callers last, root.Enters environment callers last →
      -- A component that is invoked there is opened in a scope of its own.
      (∀ place name variant data only component inner,
        last.effect environment (.component place name variant data only) =
          .ok (.opens component inner) →
        let read := lookupIn last.script.strict (last.frame.atLine place.line) last.context
        ∃ word styling pairs, name.printed read = .ok word ∧ stylingOf data = .ok styling ∧
          DataPairs read data pairs ∧ inner.IsScope word (styling.named word) pairs fun key =>
            if last.script.site.cutsOff only then none else Dict.valueAt? last.context key) ∧
      -- What stands behind it is rendered as if nothing stood in front.
      ∀ before node after, last.script.tree.body = before ++ node :: after →
        ∃ front back, Template.IsOf front (last.script.withBody before) ∧
          Template.IsOf back (last.script.withBody after) ∧
          last.text environment = (do
            let head ← front.renderIn environment last.frame.levels last.frame last.context
            let middle ← (last.step environment node >>=
              last.finish environment node.line).mapError
                ((last.frame.atLine node.line).locate last.script.source)
            let tail ← back.renderIn environment last.frame.levels last.frame last.context
            .ok (head ++ middle ++ tail)) := by
  intro root
  refine ⟨render_eq_text (ofTree_isOf made) named rooted, rootContext_valueAt? rooted,
    fun callers last entered => ⟨?_, ?_⟩⟩
  · intro place name variant data only component inner opened
    exact Activation.effect_scope (entered.distinct (rootContext_distinct distinct rooted)) opened
  · intro before node after split
    exact Activation.text_between (entered.made ⟨template, ofTree_isOf made⟩) split

/-- Data that gives a number twice, the text of the number, and a name that is computed. -/
def menuData : Node :=
  .hash ⟨1, 13⟩
    [.constant ⟨1, 14⟩ (.int 1), .constant ⟨1, 22⟩ (.text "1"), .constant ⟨1, 32⟩ (.text "name"),
     .constant ⟨1, 46⟩ (.int 1)]
    [.constant ⟨1, 17⟩ (.text "one"), .constant ⟨1, 27⟩ (.text "text"),
     .constant ⟨1, 40⟩ (.text "mine"), .name ⟨1, 49⟩ "user"]

/-- An invocation with that data, of a component that a variable names. -/
def menuNode : Node :=
  .component ⟨1, 0⟩ (.name ⟨1, 8⟩ "part") none (some menuData) false

/-- A page that invokes the component and then prints a name of its own. -/
def menuTree : Node :=
  .template .start [menuNode, .output ⟨2, 0⟩ (.name ⟨2, 3⟩ "name")]

/-- An environment with the component, and with globals for it to see. -/
def menuEnvironment : Environment :=
  { Environment.default with
    loader := some (.held
      [("Menu/menu.html",
        "\x7b\x7b name \x7d\x7d \x7b\x7b theme \x7d\x7d \x7b\x7b user \x7d\x7d, ")])
    globals := [(.text "theme", .text "dark"), (.text "user", .text "nobody")] }

/-- The root context of the page. -/
def menuContext : Dict :=
  [(.text "theme", .text "dark"), (.text "user", .text "Ada"), (.text "name", .text "page"),
   (.text "part", .text "Menu")]

/-- The component has its own name, the user under the number, and the theme of the page, whose own
name is left as it was. -/
theorem render_scope_menu :
    ∃ template component inner,
      menuEnvironment.ofTree menuTree (some "page") none none = .ok template ∧
      template.render (some menuEnvironment)
        [.dict [(.text "user", .text "Ada"), (.text "name", .text "page")]]
        [(.text "part", .text "Menu")] = .ok "Menu dark Ada, page" ∧
      (menuEnvironment.root (menuEnvironment.scriptOf menuTree (some "page") none none)
        menuContext).effect menuEnvironment menuNode = .ok (.opens component inner) ∧
      Dict.named? inner "name" = some (.text "Menu") ∧
      Dict.valueAt? inner (.int 1) = some (.text "Ada") ∧
      Dict.valueAt? inner (.text "1") = some (.text "text") ∧
      Dict.named? inner "theme" = some (.text "dark") := by
  have rendered : (menuEnvironment.ofTree menuTree (some "page") none none >>= fun template =>
      template.render (some menuEnvironment)
        [.dict [(.text "user", .text "Ada"), (.text "name", .text "page")]]
        [(.text "part", .text "Menu")]) = .ok "Menu dark Ada, page" := by
    decide +kernel
  obtain ⟨template, made, rendered⟩ := bind_eq_ok.1 rendered
  have distinct : Dict.Distinct menuEnvironment.globals := by
    simp [Dict.Distinct, menuEnvironment]
  obtain ⟨_, _, entered⟩ := render_scope menuEnvironment menuEnvironment distinct made
    (show checkKeywords [(.text "part", .text "Menu")] = .ok () from rfl)
    (show rootContext menuEnvironment.globals
      [.dict [(.text "user", .text "Ada"), (.text "name", .text "page")]]
      [(.text "part", .text "Menu")] = .ok menuContext from rfl)
  obtain ⟨invoked, _⟩ := entered [] _ (.here _)
  -- The invocation is carried out, and its scope is the one that the theorem gives.
  have opens : ((menuEnvironment.root
      (menuEnvironment.scriptOf menuTree (some "page") none none) menuContext).effect
        menuEnvironment menuNode).isOk = true := by
    decide +kernel
  obtain ⟨effect, opened⟩ := eq_ok_of_isOk opens
  obtain ⟨found, invocation, same⟩ := map_eq_ok.1 opened
  cases same
  obtain ⟨word, styling, pairs, called, styled, evaluated, scope⟩ := invoked _ _ _ _ _ _ _ opened
  cases called
  have known : pairs = [(.int 1, .text "one"), (.text "1", .text "text"),
      (.text "name", .text "mine"), (.int 1, .text "Ada")] := evaluated.unique ⟨rfl, rfl⟩
  subst known
  -- A number is no text, so that none of the names stands under it.
  have number := scope.others (.int 1) (by simp [Value.sameKey, Value.key?])
  have digit := scope.others (.text "1") (by simp)
  have theme := scope.others (.text "theme") (by simp)
  exact ⟨template, _, _, made, rendered, opened, scope.name, number, digit, theme⟩

end Stencil
