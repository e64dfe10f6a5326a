import Stencil.Proofs.Simulation
import Stencil.Proofs.UndefinedVariables

/-! Where variables need not be defined, renders that succeed anyway give the same text, and no
variable is missed. -/

namespace Stencil

/-- The environment in which variables need not be defined. -/
def Environment.lenient (environment : Environment) : Environment :=
  { environment with strict := false }

/-- The template whose variables need not be defined. -/
def Template.lenient (template : Template) : Template :=
  { template with strict := false }

/-- The script whose variables need not be defined. -/
def Script.lenient (script : Script) : Script :=
  { script with strict := false }

section

variable (environment : Environment)

/-- Strictness has no part in whether a script can be compiled. -/
theorem Script.compile_lenient (script : Script) :
    script.lenient.compile = script.compile.map Template.lenient := by
  -- The mode is written down by the last step and asked for by none.
  simp only [compile, lenient, bind_map, map_ok, Template.lenient]

/-- The same scripts can be loaded where variables need not be defined. -/
theorem Environment.script_lenient (path : String) :
    environment.lenient.script path = (environment.script path).map Script.lenient := by
  -- Loading and reading do not look at the mode, and compiling only writes it down.
  have load : environment.lenient.load path = environment.load path := rfl
  have same (tree : Node) (name file source : Option String) :
      environment.lenient.scriptOf tree name file source =
        (environment.scriptOf tree name file source).lenient := rfl
  simp only [script, load, same, Script.compile_lenient, bind_map, map_bind, map_ok]

/-- The same sources are made into templates where variables need not be defined. -/
theorem Environment.ofSource_lenient (source : String) (name file : Option String) :
    environment.lenient.ofSource source name file =
      (environment.ofSource source name file).map Template.lenient := by
  -- Only compiling comes to know the mode.
  simp only [ofSource, ofTree_eq_compile, bind_map, ← Script.compile_lenient]
  rfl

/-- A template that is lenient is that of a lenient script. -/
theorem Template.IsOf.lenient {template : Template} {script : Script}
    (made : template.IsOf script) : template.lenient.IsOf script.lenient := by
  -- Compiling in the lenient mode gives the lenient template.
  have compiled : script.compile = .ok template := made
  exact script.compile_lenient.trans (by rw [compiled]; rfl)

end

/-- A variable that is found is found where it need not be defined. -/
theorem lookupIn_lenient {strict : Bool} {frame : Frame} {context : Dict} {word : String}
    {value : Value} (found : lookupIn strict frame context word = .ok value) :
    lookupIn false frame context word = .ok value := by
  cases strict with
  | false => exact found
  | true =>
    simp only [lookupIn, if_true, lookupStrict] at found
    -- What is there under the name is what both kinds of reading give.
    cases known : Dict.named? context word with
    | none => simp [known] at found
    | some other =>
      simp only [known, Except.ok.injEq] at found
      simp [lookupIn, lookupLenient, known, found]

/-- A render where variables need not be defined follows any other one as long as that succeeds. -/
def Simulation.leniency (environment : Environment) :
    Simulation environment environment.lenient where
  compare := .succeeds
  Near := Eq
  Kin script twin := twin = script.lenient
  levels near := by rw [near]
  atLine near line := by rw [near]
  child near _ _ kin := by
    subst near kin
    rfl
  lookup near _ _ kin context word value found := by
    subst near kin
    exact ⟨value, lookupIn_lenient found, rfl⟩
  summon near strict rival site name variant word script summoned := by
    subst near
    simp only [Surroundings.summon, mapError_eq_ok] at summoned ⊢
    -- The extension is no part of strictness, so that the path is the same.
    have path : (environment.lenient.components rival).pathOf site name variant word =
        (environment.components strict).pathOf site name variant word := by
      simp only [Surroundings.pathOf, Environment.components, Environment.around,
        Environment.lenient]
    refine ⟨script.lenient, ?_, rfl⟩
    rw [path]
    exact (environment.script_lenient _).trans (congrArg (Except.map Script.lenient) summoned)
  styling near site data word styling styled := by
    subst near
    exact ⟨styling, styled, rfl⟩
  tooDeep _ _ _ _ _ refused := nomatch refused
  located near source rival _ _ holds text located := by
    obtain ⟨other, found, same⟩ := holds text (mapError_eq_ok.1 located)
    exact ⟨other, mapError_eq_ok.2 found, same⟩
  text kin around frame context := by rw [kin]; rfl

/-- A script that is loaded is as strict as its environment. -/
theorem script_strict {environment : Environment} {path : String} {script : Script}
    (loaded : environment.script path = .ok script) : script.strict = environment.strict := by
  -- A script takes the mode of the environment it was loaded in.
  obtain ⟨_, _, _, _, _, rfl, _⟩ := Environment.script_eq_ok.1 loaded
  rfl

namespace Activation

section

variable {environment : Environment} {active last : Activation} {callers : Callers}

/-- Whatever is entered may leave variables undefined, if the first script and the environment
do. -/
theorem Enters.lenient (entered : active.Enters environment callers last)
    (within : environment.strict = false) (first : active.script.strict = false) :
    last.script.strict = false :=
  -- All scripts that are entered were loaded in a lenient environment.
  entered.holds (fun _ _ loaded => (script_strict loaded).trans within) first

/-- No variable is missed where none of the scripts needs it to be defined, unless the host program
raises a report that says so. -/
theorem text_lenient {allowed : Fault → Prop} (within : environment.strict = false)
    (first : active.script.strict = false) (only : active.RaisesOnly environment allowed)
    {fault : UndefinedFault}
    (failed : active.text environment = .error (.diagnostic (.undefined fault))) :
    ∃ raised, allowed raised ∧ raised.report? = some (.undefined fault) := by
  obtain ⟨callers, last, node, own, entered, reached, stopped, same⟩ := text_eq_error.1 failed
  have ended := leave_undefined same
  rcases step_missed (entered.raisesOnly only) reached stopped ended with ⟨_, strict, _⟩ | raised
  · -- A variable is missed only by a script that needs it to be defined.
    rw [entered.lenient within first] at strict
    cases strict
  · exact raised

end

end Activation

/-- A source is made into a template where variables need not be defined just if it is one anyway.
If a render then gives a text, the lenient render gives the same; and a lenient render reports an
undefined variable only if the host program has raised that report. -/
theorem render_lenient (maker environment : Environment) (source : String)
    (name file : Option String) :
    maker.lenient.ofSource source name file =
      (maker.ofSource source name file).map Template.lenient ∧
    ∀ template, maker.ofSource source name file = .ok template → ∀ arguments keywords,
      (∀ text, template.render (some environment) arguments keywords = .ok text →
        template.lenient.render (some environment.lenient) arguments keywords = .ok text) ∧
      ∀ fault, template.lenient.render (some environment.lenient) arguments keywords =
          .error (.diagnostic (.undefined fault)) →
        ∃ context, rootContext environment.globals arguments keywords = .ok context ∧
          ∃ raised, environment.Raises context raised ∧
            raised.report? = some (.undefined fault) := by
  refine ⟨maker.ofSource_lenient source name file, fun template made arguments keywords => ?_⟩
  obtain ⟨tree, read, compiled⟩ := ofSource_eq_ok.1 made
  rcases render_refused (some environment) arguments keywords with
    ⟨accident, refused⟩ | ⟨_, context, ⟨⟩, named, rooted⟩
  · -- The lenient render is refused as the other one is, and no variable is missed yet.
    rw [refused template (some environment) rfl,
      refused template.lenient (some environment.lenient) rfl]
    exact ⟨nofun, nofun⟩
  · -- Both renders start in the same context, as the globals are the same.
    rw [render_eq_text compiled named rooted, render_eq_text compiled.lenient named
      (show rootContext environment.lenient.globals arguments keywords = .ok context from rooted)]
    refine ⟨fun text rendered => ?_, fun fault missed => ⟨context, rooted,
      Activation.text_lenient rfl rfl
        (@root_raisesOnly maker.lenient environment.lenient _ _ _ _ read context) missed⟩⟩
    obtain ⟨other, again, rfl⟩ :=
      (Simulation.leniency environment).wholeText rfl rfl context text rendered
    exact again

/-- An environment with a component that prints what it is given, and the rank of a user. -/
def rowEnvironment : Environment :=
  { Environment.default with
    loader := some (.held
      [("Row/row.html", "\x7b\x7b label \x7d\x7d, \x7b\x7b user.rank \x7d\x7d")]) }

/-- A page that invokes the component under the name of a variable. -/
def rowSource : String :=
  "\x7b% view kind \x7blabel: [title]\x7d %\x7d"

/-- What the page is rendered with: a user, and what the page itself reads. -/
def rowContext : Dict :=
  [(.text "user", .dict [(.text "rank", .text "first")]), (.text "kind", .text "Row"),
   (.text "title", .int 7)]

/-- With a user, both renders give the same text; without one, only the first misses it. -/
theorem render_lenient_row :
    ∃ template fault, rowEnvironment.ofSource rowSource (some "page") none = .ok template ∧
      rowEnvironment.lenient.ofSource rowSource (some "page") none = .ok template.lenient ∧
      template.render (some rowEnvironment) [.dict rowContext] [] = .ok "[7], first" ∧
      template.lenient.render (some rowEnvironment.lenient) [.dict rowContext] [] =
        .ok "[7], first" ∧
      template.render (some rowEnvironment) [.dict (rowContext.drop 1)] [] =
        .error (.diagnostic (.undefined fault)) ∧
      template.lenient.render (some rowEnvironment.lenient) [.dict (rowContext.drop 1)] [] ≠
        .error (.diagnostic (.undefined fault)) := by
  have accepted : (rowEnvironment.ofSource rowSource (some "page") none).isOk = true := by
    decide +kernel
  have rendered : (rowEnvironment.ofSource rowSource (some "page") none >>= fun template =>
      template.render (some rowEnvironment) [.dict rowContext] []) = .ok "[7], first" := by
    decide +kernel
  have missed : (rowEnvironment.ofSource rowSource (some "page") none >>= fun template =>
      template.render (some rowEnvironment) [.dict (rowContext.drop 1)] []) =
        .error (.diagnostic (.undefined ⟨"user", "Row/row.html", some 1, none,
          some (.around "\x7b\x7b label \x7d\x7d, \x7b\x7b user.rank \x7d\x7d" 1 2 none)⟩)) := by
    decide +kernel
  obtain ⟨template, made⟩ := eq_ok_of_isOk accepted
  rw [made, ok_bind] at rendered missed
  -- The lenient renders follow from the strict ones.
  obtain ⟨same, follows⟩ :=
    render_lenient rowEnvironment rowEnvironment rowSource (some "page") none
  rw [made, map_ok] at same
  -- Texts and a small number raise nothing, and neither does a loader that holds its sources.
  have quiet (fault : Fault) : ¬ rowEnvironment.Raises (rowContext.drop 1) fault := by
    rintro (⟨loader, path, ⟨⟩, failed⟩ | raises)
    · cases failed
    · obtain ⟨entry, among, inner⟩ := Value.raises_dict.1 raises
      simp only [rowContext, List.drop_succ_cons, List.drop_zero, List.mem_cons,
        List.not_mem_nil, or_false] at among
      rcases among with rfl | rfl
      · exact inner.elim (Value.not_raises_text _) (Value.not_raises_text _)
      · have plain : (Value.int 7).IsPlain := show IsShort 7 by unfold IsShort; decide
        exact inner.elim (Value.not_raises_text _) plain.not_raises
  refine ⟨template, _, made, same, rendered, (follows template made _ _).1 _ rendered, missed,
    fun again => ?_⟩
  obtain ⟨context, rooted, raised, raises, _⟩ := (follows template made _ _).2 _ again
  cases rooted
  exact quiet raised raises

/-- What is given to a page: an object that is made into a text by a render of its own, which misses
a variable. -/
def partContext : Dict :=
  [(.text "x", .object 0 "Part"
    (.error (.library (.undefined ⟨"zzz", "part", some 1, none, none⟩)))
    (.ok "<Part>") (fun _ => .error (.raised .missingAttribute none))
    fun _ => .error (.raised .wrongKind none))]

/-- A report that the host program raises leaves a lenient render too. -/
theorem lenient_report_passes :
    ∃ template, Environment.default.lenient.ofSource "{{ x }}" (some "page") none =
        .ok template ∧
      template.render (some Environment.default.lenient) [.dict partContext] [] =
        .error (.diagnostic (.undefined ⟨"zzz", "part", some 1, none, none⟩)) := by
  -- Both steps are evaluated. The object tells an error of the library itself, which no frame
  -- replaces.
  have accepted : (Environment.default.lenient.ofSource "{{ x }}" (some "page")
      none).isOk = true := by
    decide +kernel
  have rendered : (Environment.default.lenient.ofSource "{{ x }}" (some "page") none >>=
      fun template => template.render (some Environment.default.lenient) [.dict partContext] []) =
        .error (.diagnostic (.undefined ⟨"zzz", "part", some 1, none, none⟩)) := by
    decide +kernel
  obtain ⟨template, made⟩ := eq_ok_of_isOk accepted
  rw [made, ok_bind] at rendered
  exact ⟨template, made, rendered⟩

end Stencil
