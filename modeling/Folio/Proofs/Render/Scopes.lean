import Folio.Proofs.Render.Outcome
import Folio.Proofs.Variables

/-!
# What the template of a file sees

Every file of a walk is expanded over a scope, which is passed on as the caller of its layout. The
scopes of a walk are therefore merged one into the other, and each of them has the place holder for
the body put in again. What comes of it has a closed form: the first that binds a name counts, the
caller before the files of the walk, and these in the order in which they are walked. The names of the
site and of the body are out of reach.

A name that nothing binds stands for a function of the engine if there is one of that name.

Main definitions:
- `Template.beginning`: the machine in which a template begins
- `Pipeline.document?`: the front matter of a file
- `Pipeline.meaning`: what a name stands for in the template of the last of some files

Main statements:
- `Pipeline.IsScopedBy.onward`, `Pipeline.scopedBy_of_reaches`: the scopes along a walk
- `Pipeline.sees_of_reaches`: what the template of every file of a walk sees
-/

namespace Folio

/-! ## Section 1: Front matters -/

theorem Yaml.isOrdered_of_mappingVariables? {anchors : Anchors} {root node : Node} {fuel jumps : Nat}
    {vars : Variables} (h : mappingVariables? anchors root fuel jumps node = some vars) :
    vars.IsOrdered := by
  induction fuel generalizing jumps node with
  | zero => cases h
  | succ fuel ih =>
    unfold mappingVariables? at h
    split at h
    · -- nothing is bound by what stands for nothing
      obtain ⟨-, absent⟩ := Option.ite_none_right_eq_some.mp h
      obtain rfl := Option.some.inj absent
      exact Variables.isOrdered_empty
    · split at h
      · cases h
      · obtain ⟨node', -, read⟩ := Option.bind_eq_some_iff.mp h
        exact ih read
    · cases h
    · obtain ⟨⟨bindings, more⟩, -, rfl⟩ := Option.map_eq_some_iff.mp h
      exact Variables.isOrdered_ofList bindings

theorem Yaml.isOrdered_of_readMapping? {text : String} {vars : Variables}
    (h : readMapping? text = some vars) : vars.IsOrdered := by
  obtain ⟨doc, -, read⟩ := Option.bind_eq_some_iff.mp h
  split at read
  · obtain rfl := Option.some.inj read
    exact Variables.isOrdered_empty
  · exact isOrdered_of_mappingVariables? read

/-- The variables of a front matter are in order. -/
theorem FrontMatter.isOrdered_of_parse {text : String} {fm : FrontMatter}
    (h : parse Yaml.readMapping? text = .ok fm) : fm.vars.IsOrdered := by
  unfold parse at h
  split at h
  · cases h
  · obtain rfl := Except.ok.inj h
    exact Variables.isOrdered_empty
  · split at h
    · cases h
    · rename_i vars read
      obtain rfl := Except.ok.inj h
      unfold readMetadata at read
      split at read
      · obtain rfl := Except.ok.inj read
        exact Variables.isOrdered_empty
      · split at read
        · rename_i vars' mapping
          obtain rfl := Except.ok.inj read
          exact Yaml.isOrdered_of_readMapping? mapping
        · cases read

/-! ## Section 2: The beginning of a template -/

namespace Template

/-- The machine in which a template begins: one frame, over the variables that the template sees. -/
def beginning (site : Site) (scope : Scope) (body : List Statement) : Machine where
  frames := [{ base := .vars ((visible site scope).entries.map fun (k, v) => (k, .ofValue v)) }]
  blocks := addBlocks [] (blocksInAll body)

/-- What other templates are loaded from. -/
def loader (partials : Option Partials) (name : String) : Except Fault (Option String) :=
  match partials with
  | none => .ok none
  | some partials => partials.load name

/-- The engine runs a template from its beginning. -/
theorem engine_eq (partials : Option Partials) (source : String) (site : Site) (scope : Scope) :
    engine partials source site scope = do
      let body ← statements source
      let (_, after) ← (runWhole (interpreter (loader partials) maxRunDepth) body).run
        (beginning site scope body)
      return after.output := rfl

theorem isUndefined_ofValue (v : Value) : (Datum.ofValue v).isUndefined = false := by
  cases v <;> rfl

theorem lookupName_ofValue (name : String) (entries : List (String × Value)) :
    Datum.lookupName name (entries.map fun (k, v) => (k, .ofValue v))
      = (Variables.lookup name entries).map Datum.ofValue := by
  induction entries with
  | nil => rfl
  | cons entry rest ih =>
    rw [List.map_cons, Datum.lookupName, Variables.lookup, ih]
    split <;> rfl

/-- What a name stands for that is bound to `bound`, if it is bound at all. -/
def meaningOf (name : String) (bound : Option Value) : Datum :=
  match bound with
  | some v => .ofValue v
  | none => if functionNames.contains name then .function name else .undefined

/-- A name is looked up in the frames first, and then among the functions. -/
theorem run_lookup? (name : String) (m : Machine) : (lookup? name).run m
    = .ok ((lookupFrames m.cells name m.frames).or
        (if functionNames.contains name then some (.function name) else none), m) := by
  have got : (get : Run Machine).run m = pure (m, m) := rfl
  rw [lookup?, StateT.run_bind, got, pure_bind]
  cases lookupFrames m.cells name m.frames <;> rfl

/-- As a template begins, a name stands for what it is bound to in the variables that the template
sees. -/
theorem run_variable_beginning (self : Interpreter) (site : Site) (scope : Scope)
    (body : List Statement) (name : String) :
    (evaluateWith self (.variable name)).run (beginning site scope body)
      = .ok (meaningOf name ((visible site scope).get? name), beginning site scope body) := by
  have found : lookupFrames (beginning site scope body).cells name (beginning site scope body).frames
      = ((visible site scope).get? name).map Datum.ofValue := by
    simp only [beginning, lookupFrames, Datum.lookupName, Base.lookup?, lookupName_ofValue,
      Option.or_none]
    show (((visible site scope).get? name).map Datum.ofValue).filter _ = _
    cases (visible site scope).get? name with
    | none => rfl
    | some v => simp [Option.filter, isUndefined_ofValue]
  unfold evaluateWith
  rw [StateT.run_bind, run_lookup?, found]
  unfold meaningOf
  cases (visible site scope).get? name with
  | some v => rfl
  | none =>
    show Except.ok _ = _
    split <;> rfl

end Template

/-! ## Section 3: The scopes of a walk -/

namespace Pipeline

variable {S : Type} {p : Pipeline S} {document : Path} {caller : Variables} {s s' : S} {w w' : Walk}
  {fm : FrontMatter}

/-- What a file is split into, if it can be read and split. -/
def document? (p : Pipeline S) (file : Path) : Option FrontMatter :=
  match p.resources.readText file with
  | .error _ => none
  | .ok text => (FrontMatter.parse Yaml.readMapping? text).toOption

theorem document?_eq_some_iff {file : Path} : p.document? file = some fm ↔
    ∃ text, p.resources.readText file = .ok text
      ∧ FrontMatter.parse Yaml.readMapping? text = .ok fm := by
  unfold document?
  cases p.resources.readText file with
  | error cause => simp
  | ok text => cases split : FrontMatter.parse Yaml.readMapping? text <;> simp [Except.toOption, split]

/-- What the front matter of a file binds a name to. -/
def ownValue? (p : Pipeline S) (name : String) (file : Path) : Option Value :=
  (p.document? file).bind fun fm => fm.vars.get? name

/-- What a name is bound to by the first that binds it, of a caller and then some files. -/
def firstValue? (p : Pipeline S) (caller : Variables) (files : List Path) (name : String) :
    Option Value :=
  (caller.get? name).or (files.findSome? (p.ownValue? name))

/-- What a name stands for in the template of the last of some files. -/
def meaning (p : Pipeline S) (caller : Variables) (files : List Path) (name : String) :
    Template.Datum :=
  if name = Template.siteKey then .ofValue p.site.vars.toValue
  else if name = bodyKey then .str bodyPlaceholder false
  else Template.meaningOf name (p.firstValue? caller files name)

/-- Where a walk stands, the variables passed on bind every name but that of the body as the first
does that binds it, of the caller and the files that have been passed. -/
structure IsScopedBy (p : Pipeline S) (caller : Variables) (w : Walk) : Prop where
  ordered : w.outer.IsOrdered
  read : ∀ file ∈ w.passed, ∃ fm, p.document? file = some fm
  bound : ∀ name, name ≠ bodyKey → w.outer.get? name = p.firstValue? caller w.passed name

/-- The scope of the file that is handled next has that file as the last one, and the place holder
for the body. -/
theorem IsScopedBy.get?_scope (here : p.IsScopedBy caller w) (isFile : p.document? w.file = some fm)
    (name : String) : (Scope.merge fm.vars w.outer).get? name
      = if name = bodyKey then some (.str bodyPlaceholder) else p.firstValue? caller w.files name := by
  rw [Scope.get?, Scope.merge, Variables.get?_insert]
  by_cases body : name = bodyKey
  · rw [if_pos body.symm, if_pos body]
  · have last : p.ownValue? name w.file = fm.vars.get? name := by rw [ownValue?, isFile]; rfl
    rw [if_neg (Ne.symm body), if_neg body, Variables.get?_merge here.ordered, here.bound name body,
      firstValue?, firstValue?, Walk.files, List.findSome?_append, List.findSome?_singleton, last,
      Option.or_assoc]

/-- A turn that leads on merges the scope of one more file. -/
theorem IsScopedBy.onward (here : p.IsScopedBy caller w) (turn : p.Turn w s (.onward w') s') :
    p.IsScopedBy caller w' := by
  cases turn with
  | wrapped expands named resolved fresh =>
    rename_i fm body name layout
    obtain ⟨read, split, -, -⟩ := expands
    have isFile : p.document? w.file = some fm := document?_eq_some_iff.mpr ⟨_, read, split⟩
    refine ⟨?_, fun file mem => ?_, fun name notBody => ?_⟩
    · exact ((FrontMatter.isOrdered_of_parse split).merge _).insert ..
    · rcases List.mem_append.mp mem with mem | mem
      · exact here.read file mem
      · exact ⟨fm, List.mem_singleton.mp mem ▸ isFile⟩
    · exact (here.get?_scope isFile name).trans (if_neg notBody)

/-- Wherever a walk comes to, the caller counts before the files that have been passed. -/
theorem scopedBy_of_reaches (ordered : caller.IsOrdered)
    (reaches : p.Reaches (Walk.start document caller, s) (w, s')) : p.IsScopedBy caller w := by
  have start : p.IsScopedBy caller (Walk.start document caller) :=
    ⟨ordered, by simp [Walk.start], fun name _ => by simp [firstValue?, Walk.start]⟩
  -- on the way walked, turn by turn
  suffices ∀ there, p.Reaches (Walk.start document caller, s) there → p.IsScopedBy caller there.1 from
    this _ reaches
  intro there walked
  induction walked with
  | refl => exact start
  | tail _ turn ih => exact ih.onward turn

/-! ## Section 4: What templates see -/

/-- A file that has been read and split is converted, and then expanded over its scope. -/
theorem expandFile_of_document? {file : Path} (isFile : p.document? file = some fm)
    (outer : Variables) : p.expandFile file outer = do
      let compiled ← Rendering.ofExcept (.compile file)
        (← (p.compile file fm.content p.site : StateM S _))
      let body ← Rendering.ofExcept (.expand file)
        (p.engine compiled p.site (Scope.merge fm.vars outer))
      return { layout? := fm.layout?, scope := Scope.merge fm.vars outer, body } := by
  obtain ⟨text, read, split⟩ := document?_eq_some_iff.mp isFile
  rw [expandFile, read, Rendering.ofExcept_ok, pure_bind, split, Rendering.ofExcept_ok, pure_bind]

/-- Wherever a walk from a document comes to, the file there is expanded over a scope of its own, and
its template begins with every name standing for what the first binds it to that does, of the caller
and the front matters of the files walked so far, the document's first. The site and the body are
bound whatever they say. A name that is not bound stands for the function of the engine of that name,
or is undefined. -/
theorem sees_of_reaches {partials : Option Template.Partials}
    (engine : p.engine = Template.engine partials) (ordered : caller.IsOrdered)
    (reaches : p.Reaches (Walk.start document caller, s) (w, s'))
    (isFile : p.document? w.file = some fm) :
    let scope := Scope.merge fm.vars w.outer
    (∀ file ∈ w.files, ∃ fm, p.document? file = some fm)
      ∧ p.expandFile w.file w.outer = (do
          let compiled ← Rendering.ofExcept (.compile w.file)
            (← (p.compile w.file fm.content p.site : StateM S _))
          let body ← Rendering.ofExcept (.expand w.file) (p.engine compiled p.site scope)
          return { layout? := fm.layout?, scope, body })
      ∧ (∀ source, p.engine source p.site scope = do
          let body ← Template.statements source
          let (_, after) ← (Template.runWhole
            (Template.interpreter (Template.loader partials) Template.maxRunDepth) body).run
            (Template.beginning p.site scope body)
          return after.output)
      ∧ ∀ self body name,
          (Template.evaluateWith self (.variable name)).run (Template.beginning p.site scope body)
            = .ok (p.meaning caller w.files name, Template.beginning p.site scope body) := by
  intro scope
  have here := scopedBy_of_reaches ordered reaches
  refine ⟨fun file mem => ?_, expandFile_of_document? isFile w.outer, fun source => ?_,
    fun self body name => ?_⟩
  · rcases List.mem_append.mp mem with mem | mem
    · exact here.read file mem
    · exact ⟨fm, List.mem_singleton.mp mem ▸ isFile⟩
  · rw [engine, Template.engine_eq]
  · -- the engine puts the site over the scope, as the scope has the place holder over the rest
    have bound : Template.meaningOf name ((Template.visible p.site scope).get? name)
        = p.meaning caller w.files name := by
      rw [Template.visible, Variables.get?_insert, meaning]
      by_cases site : name = Template.siteKey
      · rw [if_pos site.symm, if_pos site]
        rfl
      · rw [if_neg (Ne.symm site), if_neg site]
        show Template.meaningOf name (scope.get? name) = _
        rw [here.get?_scope isFile name]
        split <;> rfl
    rw [Template.run_variable_beginning, bound]

/-- Files in memory that are left as they are and expanded by the engine without partials. -/
def templated (files : List (String × String)) (site : Site) : Pipeline Unit :=
  { plain files with engine := Template.engine none, site }

/-- In a layout, the page counts before the layout, and the caller before both. Neither of them can
say what the site or the body is. -/
theorem sees_page_in_layout :
    let p := templated [("page.txt", "---\nlayout: a\ntitle: t\n---\nx"),
      ("_layouts/a.html", "---\nsite: w\ntitle: u\ntone: v\n---\n<{{ body }}>")]
      ⟨.ofList [("name", .str "n")]⟩
    let page := Path.ofString "page.txt"
    let caller := Variables.ofList [("body", .str "b"), ("tone", .str "c")]
    ∃ w fm, p.Reaches (Walk.start page caller, ()) (w, ()) ∧ w.files.length = 2
      ∧ p.document? w.file = some fm
      ∧ ∀ self body, ∀ reading ∈ [("title", Template.Datum.str "t" false), ("tone", .str "c" false),
          ("site", .map [(.str "name" false, .str "n" false)]), ("body", .str bodyPlaceholder false),
          ("range", .function "range"), ("other", .undefined)],
        (Template.evaluateWith self (.variable reading.1)).run
            (Template.beginning p.site (Scope.merge fm.vars w.outer) body)
          = .ok (reading.2, Template.beginning p.site (Scope.merge fm.vars w.outer) body) := by
  intro p page caller
  let pageFront : FrontMatter :=
    { vars := .ofTexts [("layout", "a"), ("title", "t")], content := "x" }
  have pageSplit : FrontMatter.parse Yaml.readMapping? "---\nlayout: a\ntitle: t\n---\nx"
      = .ok pageFront :=
    FrontMatter.eq_ok_of_texts _ (by decide +kernel)
  let layout := Path.ofString "_layouts/a.html"
  let w : Walk :=
    { passed := [page], file := layout,
      outer := (Scope.merge pageFront.vars caller).vars, waiting := ["x"] }
  have turn : p.Turn (Walk.start page caller) () (.onward w) () :=
    .wrapped (.intro rfl pageSplit rfl (by decide +kernel)) rfl rfl (by decide +kernel)
  have reaches : p.Reaches (Walk.start page caller, ()) (w, ()) := .single turn
  let layoutFront : FrontMatter :=
    { vars := .ofTexts [("site", "w"), ("title", "u"), ("tone", "v")]
      content := "<{{ body }}>" }
  have layoutSplit : FrontMatter.parse Yaml.readMapping?
      "---\nsite: w\ntitle: u\ntone: v\n---\n<{{ body }}>" = .ok layoutFront :=
    FrontMatter.eq_ok_of_texts _ (by decide +kernel)
  have isPage : p.document? page = some pageFront :=
    document?_eq_some_iff.mpr ⟨_, rfl, pageSplit⟩
  have isFile : p.document? layout = some layoutFront :=
    document?_eq_some_iff.mpr ⟨_, rfl, layoutSplit⟩
  have engine : p.engine = Template.engine none := rfl
  obtain ⟨-, -, -, sees⟩ :=
    sees_of_reaches (w := w) engine (Variables.isOrdered_ofList _) reaches isFile
  have first (name : String) : p.firstValue? caller w.files name
      = (caller.get? name).or ((pageFront.vars.get? name).or (layoutFront.vars.get? name)) := by
    have files : w.files = [page] ++ [layout] := rfl
    simp only [firstValue?, files, List.findSome?_append, List.findSome?_singleton, ownValue?,
      isPage, isFile, Option.bind_some]
  refine ⟨w, layoutFront, reaches, rfl, isFile, fun self body reading mem => ?_⟩
  rw [sees, meaning, first]
  simp only [List.mem_cons, List.not_mem_nil, or_false] at mem
  rcases mem with rfl | rfl | rfl | rfl | rfl | rfl
  all_goals rfl

/-- A name that nothing binds is not undefined if it is that of a function. -/
theorem range_not_undefined :
    let p := templated
      [("page.txt", "{% if range is undefined %}undefined{% else %}bound{% endif %}")] {}
    let page := Path.ofString "page.txt"
    p.firstValue? .empty [page] "range" = none
      ∧ (p.renderPath page .empty).runFrom () = (.ok "bound", ()) := by
  intro p page
  exact ⟨rfl, by decide +kernel⟩

end Pipeline

end Folio
