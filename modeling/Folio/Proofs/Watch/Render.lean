import Folio.Proofs.Watch.Drawing
import Folio.Proofs.Watch.UpToDate
import Mathlib.Data.List.Sigma

/-!
# Documents that fail beside documents that do not

A session renders documents in any order, goes on after a failure, and tells of the first in the list
that failed. If no target is looked up and none is below another, every document that is drawn has
its page at its target in the end, whatever became of the others, and no other file has changed.

Two documents of which one has its target below that of the other hold each other back: the target
that is written first is a file where the other needs a directory, or the other way round.

Main definitions:
- `Step.runEach`: one step after the other, whether or not some fail
- `Session.renderBy`: rendering documents in any order
- `Session.Leaves`: the files that are left of it
- `Session.RendersEach`: what is left and told if every target is writable

Main statements:
- `Session.render_eq_renderBy`: documents are rendered in the order of the list
- `Session.ranEach_renderDocument`, `Session.leaves_renderBy`: what rendering each document leaves
- `Session.renders_each`: what a rendering in any order leaves and tells
-/

namespace Folio

/-! ## Section 1: One step after the other -/

namespace Step

variable {σ ε α ι : Type}

/-- Take a step for each of some items, one after the other, whether or not some fail: what comes of
each of them. -/
def runEach (step : ι → Step σ ε α) (s : σ) : List ι → List (ι × Except ε α) × σ
  | [] => ([], s)
  | item :: rest =>
      let (result, s) := (step item).runFrom s
      let (results, s) := runEach step s rest
      ((item, result) :: results, s)

theorem runEach_cons (step : ι → Step σ ε α) (s : σ) (item : ι) (rest : List ι) :
    runEach step s (item :: rest)
      = ((item, ((step item).runFrom s).1) :: (runEach step ((step item).runFrom s).2 rest).1,
          (runEach step ((step item).runFrom s).2 rest).2) := rfl

/-- What comes of an item is what its step gives from some state. -/
theorem exists_of_mem_runEach {step : ι → Step σ ε α} {s : σ} {items : List ι} {item : ι}
    {result : Except ε α} (h : (item, result) ∈ (runEach step s items).1) :
    item ∈ items ∧ ∃ s', ((step item).runFrom s').1 = result := by
  induction items generalizing s with
  | nil => cases h
  | cons first rest ih =>
    rw [runEach_cons] at h
    rcases List.mem_cons.mp h with same | mem
    · obtain ⟨rfl, rfl⟩ := Prod.mk.inj same
      exact ⟨List.mem_cons_self, s, rfl⟩
    · obtain ⟨mem, from_later⟩ := ih mem
      exact ⟨List.mem_cons_of_mem _ mem, from_later⟩

/-- Something comes of every item. -/
theorem map_fst_runEach (step : ι → Step σ ε α) (s : σ) (items : List ι) :
    (runEach step s items).1.map Prod.fst = items := by
  induction items generalizing s with
  | nil => rfl
  | cons item rest ih => rw [runEach_cons, List.map_cons, ih]

end Step

namespace Session

variable {R : Type} {language : ScriptLanguage R} {session : Session R} {base fs : FileSystem}
  {documents : List String} {order : List (String × Nat)} {notices : List Notice}

/-! ## Section 2: Rendering in any order -/

/-- A document of a list, with its number. -/
abbrev Entry := String × Nat

/-- The failure of a document, if it failed. -/
def failureOf (results : List (Entry × Except DocumentError Unit)) (entry : Entry) :
    Option (String × DocumentError) :=
  match results.lookup entry with
  | some (.error e) => some (entry.1, e)
  | some (.ok ()) | none => none

/-- The first document of a list that failed, with why. -/
def firstFailure (documents : List String) (results : List (Entry × Except DocumentError Unit)) :
    Option (String × DocumentError) :=
  documents.zipIdx.findSome? (failureOf results)

/-- Render documents to their targets, one after the other. -/
def renderEach (language : ScriptLanguage R) (session : Session R) (w : Workspace (Registry R))
    (order : List Entry) :
    List (Entry × Except DocumentError Unit) × Workspace (Registry R) :=
  Step.runEach (fun entry => renderDocument (session.renderer.pipeline language)
    session.config.build.output session.vars entry.1) w order

/-- What is told of documents that have been rendered. -/
def noticeOf (documents : List String) (results : List (Entry × Except DocumentError Unit)) :
    Notice :=
  match firstFailure documents results with
  | some (logical, e) => .failure ("failed: " ++ logical) e.fullMessage
  | none => .success ("rendered: " ++ ", ".intercalate documents)

/-- Render documents in some order, and say how it went. -/
def renderBy (language : ScriptLanguage R) (order : List Entry) (documents : List String)
    (state : State R) : State R :=
  let session := state.session
  let (results, w) := session.renderEach language
    { fs := state.fs, compilers := session.renderer.registry } order
  { state with fs := w.fs, session := session.withRegistry w.compilers }.tell
    (noticeOf documents results)

theorem renderDocuments_eq_runEach (render : String → Work (Registry R) DocumentError Unit)
    (w : Workspace (Registry R)) (documents : List String) (number : Nat) :
    let ran := Step.runEach (fun entry => render entry.1) w (documents.zipIdx number)
    renderDocuments render w documents
      = ((documents.zipIdx number).findSome? (failureOf ran.1), ran.2) := by
  -- on the documents, with the number of the first
  induction documents generalizing w number with
  | nil => rfl
  | cons logical rest ih =>
    intro ran
    have later := ih ((render logical).runFrom w).2 (number + 1)
    generalize others : Step.runEach (fun entry : Entry => render entry.1)
      ((render logical).runFrom w).2 (rest.zipIdx (number + 1)) = ranRest at later
    have split : ran
        = (((logical, number), ((render logical).runFrom w).1) :: ranRest.1, ranRest.2) := by
      simp only [ran, List.zipIdx_cons, Step.runEach_cons, others]
    -- the other documents have other numbers
    have elsewhere : (rest.zipIdx (number + 1)).findSome? (failureOf ran.1)
        = (rest.zipIdx (number + 1)).findSome? (failureOf ranRest.1) := by
      rw [← List.head?_filterMap, ← List.head?_filterMap]
      refine congrArg List.head? (List.filterMap_congr fun entry mem => ?_)
      have differs : entry ≠ (logical, number) := by
        rintro rfl
        have beyond := (List.mem_zipIdx mem).1
        omega
      rw [split, failureOf, failureOf, List.lookup_cons, beq_eq_false_iff_ne.mpr differs]
    rw [List.zipIdx_cons, List.findSome?_cons, elsewhere]
    unfold renderDocuments
    cases first : (render logical).runFrom w with
    | mk result w₁ =>
      have run : (render logical).run.run w = (result, w₁) := first
      rw [first] at later split
      rw [run, split, failureOf, List.lookup_cons, beq_self_eq_true]
      dsimp only
      rw [later]
      cases result <;> rfl

/-- Documents are rendered in the order of the list. -/
theorem render_eq_renderBy (language : ScriptLanguage R) (documents : List String)
    (state : State R) :
    render language documents state = renderBy language documents.zipIdx documents state := by
  unfold render renderBy noticeOf firstFailure
  dsimp only
  rw [renderDocuments_eq_runEach _ _ documents 0]
  rfl

/-! ## Section 3: What rendering each document leaves -/

/-- What is drawn for some documents, one after the other, on the files as they are. -/
def drawEach (language : ScriptLanguage R) (session : Session R) (fs : FileSystem)
    (registry : Registry R) (order : List Entry) :
    List (Entry × Except DocumentError String) × Registry R :=
  Step.runEach (fun entry => session.draw language fs entry.1) registry order

theorem drawEach_cons (language : ScriptLanguage R) (session : Session R) (fs : FileSystem)
    (registry : Registry R) (entry : Entry) (rest : List Entry) :
    let first := (session.draw language fs entry.1).runFrom registry
    let others := session.drawEach language fs first.2 rest
    session.drawEach language fs registry (entry :: rest)
      = ((entry, first.1) :: others.1, others.2) := rfl

theorem map_fst_drawEach (language : ScriptLanguage R) (session : Session R) (fs : FileSystem)
    (registry : Registry R) (order : List Entry) :
    (session.drawEach language fs registry order).1.map Prod.fst = order :=
  Step.map_fst_runEach ..

/-- What is drawn for a document is what it has with some compilers. -/
theorem exists_of_mem_drawEach {registry : Registry R} {entry : Entry}
    {result : Except DocumentError String}
    (mem : (entry, result) ∈ (session.drawEach language fs registry order).1) :
    entry ∈ order
      ∧ ∃ registry', ((session.draw language fs entry.1).runFrom registry').1 = result :=
  Step.exists_of_mem_runEach mem

/-- A document that is drawn leaves its page at a place, if that is its target and admits it. -/
def Writes (session : Session R) (base : FileSystem)
    (drawings : List (Entry × Except DocumentError String)) (place : Place) (content : ByteArray) :
    Prop :=
  ∃ entry page source, (entry, .ok page) ∈ drawings ∧ session.source? base entry.1 = some source
    ∧ base.Admits (session.target source) ∧ (session.target source).place = place
    ∧ content = page.toByteArray

/-- What there is after each of some documents has been rendered, by what has been drawn for them on
the files of `base`. -/
structure RanEach (session : Session R) (base : FileSystem)
    (drawn : List (Entry × Except DocumentError String) × Registry R) (fs : FileSystem)
    (ran : List (Entry × Except DocumentError Unit) × Workspace (Registry R)) : Prop where
  compilers : ran.2.compilers = drawn.2
  failed : ∀ entry e, (entry, .error e) ∈ drawn.1 → (entry, .error e) ∈ ran.1
  succeeded : ∀ entry page, (entry, .ok page) ∈ drawn.1 →
    (∀ source, session.source? base entry.1 = some source → base.Admits (session.target source)) →
      (entry, .ok ()) ∈ ran.1
  written : ∀ place content, session.Writes base drawn.1 place content →
    ran.2.fs.file? place = some content
  unwritten : ∀ place, (∀ content, ¬ session.Writes base drawn.1 place content) →
    ran.2.fs.file? place = fs.file? place

/-- Whether the targets of two documents, if they have one, are told apart. -/
def TargetsDiffer (session : Session R) (base : FileSystem) (a b : String) : Prop :=
  ∀ source, session.source? base a = some source → ∀ other, session.source? base b = some other →
    (session.target source).place ≠ (session.target other).place

section

variable {logical : String} {drawn : Except DocumentError String}
  {result : Except DocumentError Unit} {fs' : FileSystem}
  (ends : session.Ends base logical drawn fs result fs')

include ends

theorem Ends.eq_of_error {e : DocumentError} (failed : drawn = .error e) : result = .error e := by
  cases ends with
  | undrawn failed' => exact congrArg Except.error (Except.error.inj (failed'.symm.trans failed))
  | written isSource isPage => simp [failed] at isPage
  | refused isSource isPage => simp [failed] at isPage

theorem Ends.eq_of_ok {page : String} (isPage : drawn = .ok page)
    (admitted : ∀ source, session.source? base logical = some source →
      base.Admits (session.target source)) : result = .ok () := by
  cases ends with
  | undrawn failed => simp [isPage] at failed
  | written => rfl
  | refused isSource isPage' refuses => exact absurd (admitted _ isSource) refuses

end

/-- One document before others whose targets are told apart from its own. -/
theorem RanEach.cons {entry : Entry} {drawn : Except DocumentError String}
    {drawings : List (Entry × Except DocumentError String) × Registry R}
    {result : Except DocumentError Unit} {fs' : FileSystem}
    {ran : List (Entry × Except DocumentError Unit) × Workspace (Registry R)}
    (ends : session.Ends base entry.1 drawn fs result fs')
    (later : session.RanEach base drawings fs' ran)
    (first : ∀ other ∈ drawings.1, session.TargetsDiffer base entry.1 other.1.1) :
    session.RanEach base ((entry, drawn) :: drawings.1, drawings.2) fs
      ((entry, result) :: ran.1, ran.2) where
  compilers := later.compilers
  failed := by
    intro other e mem
    rcases List.mem_cons.mp mem with same | mem
    · obtain ⟨rfl, failed⟩ := Prod.mk.inj same
      exact List.mem_cons.mpr (.inl (by rw [ends.eq_of_error failed.symm]))
    · exact List.mem_cons_of_mem _ (later.failed other e mem)
  succeeded := by
    intro other page mem admitted
    rcases List.mem_cons.mp mem with same | mem
    · obtain ⟨rfl, isPage⟩ := Prod.mk.inj same
      exact List.mem_cons.mpr (.inl (by rw [ends.eq_of_ok isPage.symm admitted]))
    · exact List.mem_cons_of_mem _ (later.succeeded other page mem admitted)
  written := by
    rintro place content ⟨other, page, source, mem, isSource, admits, here, rfl⟩
    rcases List.mem_cons.mp mem with same | mem
    · obtain ⟨rfl, isPage⟩ := Prod.mk.inj same
      -- none of the others has this target
      have kept : ran.2.fs.file? place = fs'.file? place := by
        refine later.unwritten place ?_
        rintro content' ⟨other', page', source', mem', isSource', admits', rfl, -⟩
        exact first _ mem' source isSource source' isSource' here
      rw [kept]
      cases ends with
      | undrawn failed => simp [failed] at isPage
      | written isSource' isPage' admits' file? =>
        obtain rfl := Option.some.inj (isSource.symm.trans isSource')
        obtain rfl := Except.ok.inj (isPage.trans isPage')
        rw [file?, if_pos here.symm]
      | refused isSource' isPage' refuses file? =>
        obtain rfl := Option.some.inj (isSource.symm.trans isSource')
        exact absurd admits refuses
    · exact later.written place _ ⟨other, page, source, mem, isSource, admits, here, rfl⟩
  unwritten := by
    intro place none
    have others : ran.2.fs.file? place = fs'.file? place := by
      refine later.unwritten place ?_
      rintro content ⟨other, page, source, mem, writes⟩
      exact none content ⟨other, page, source, List.mem_cons_of_mem _ mem, writes⟩
    rw [others]
    cases ends with
    | undrawn failed => rfl
    | @written source page _ isSource isPage admits file? =>
      rw [file?, if_neg]
      intro here
      exact none _ ⟨entry, page, source, by rw [isPage]; exact List.mem_cons_self, isSource, admits,
        here.symm, rfl⟩
    | refused isSource isPage refuses file? => exact file? place

theorem TargetsDiffer.symm {a b : String} (h : session.TargetsDiffer base a b) :
    session.TargetsDiffer base b a :=
  fun source isSource other isOther same => h other isOther source isSource same.symm

theorem Apart.pairwise_targetsDiffer (apart : session.Apart base documents) :
    documents.zipIdx.Pairwise fun a b => session.TargetsDiffer base a.1 b.1 := by
  have pairs := List.pairwise_filterMap.mp apart.distinct
  rwa [← List.zipIdx_map_fst 0 documents, List.pairwise_map] at pairs

/-- Rendering each of some documents. -/
theorem ranEach_renderDocument (language : ScriptLanguage R) (loaded : session.IsLoaded)
    (disjoint : session.Disjoint base documents) (tree : base.IsTree)
    (apart : ∀ t t', session.IsTarget base documents t → session.IsTarget base documents t' →
      base.Admits t → t.place ∉ t'.passes)
    (subset : ∀ entry ∈ order, entry.1 ∈ documents)
    (distinct : order.Pairwise fun a b => session.TargetsDiffer base a.1 b.1)
    {w : Workspace (Registry R)} (gains : base.Gains (session.IsTarget base documents) w.fs) :
    session.RanEach base (session.drawEach language base w.compilers order) w.fs
      (session.renderEach language w order) := by
  -- on the documents, each of which leaves files that the next one is rendered on
  induction order generalizing w with
  | nil =>
    refine ⟨rfl, nofun, nofun, ?_, fun _ _ => rfl⟩
    rintro place content ⟨entry, page, source, mem, -⟩
    cases mem
  | cons entry rest ih =>
    obtain ⟨first, others⟩ := List.pairwise_cons.mp distinct
    obtain ⟨result, fs', run, ends, gained⟩ := exists_ends_renderDocument language loaded disjoint
      tree apart gains (subset entry List.mem_cons_self)
    have later := ih (fun entry mem => subset entry (List.mem_cons_of_mem _ mem)) others
      (w := ⟨fs', ((session.draw language base entry.1).runFrom w.compilers).2, w.notices⟩) gained
    rw [drawEach_cons, renderEach, Step.runEach_cons, run]
    refine .cons ends later fun other mem => first _ ?_
    have drawn := List.mem_map_of_mem (f := Prod.fst) mem
    rwa [map_fst_drawEach] at drawn

/-! ## Section 4: What is left -/

/-- The files that are left of rendering documents, by what has been drawn for each of them: a page
that is drawn is at its target, if that can be written, and nothing else has changed. -/
structure Leaves (session : Session R) (base : FileSystem)
    (drawings : List (Entry × Except DocumentError String)) (after : FileSystem) : Prop where
  page : ∀ entry page source, (entry, .ok page) ∈ drawings →
    session.source? base entry.1 = some source → base.Accepts (session.target source) →
      after.file? (session.target source).place = some page.toByteArray
  others : ∀ place, (∀ entry page source, (entry, .ok page) ∈ drawings →
    session.source? base entry.1 = some source → base.Accepts (session.target source) →
      (session.target source).place ≠ place) → after.file? place = base.file? place

theorem cleaned_of_draw {logical : String} {source : Path} {registry : Registry R} {page : String}
    (drawn : ((session.draw language fs logical).runFrom registry).1 = .ok page)
    (isSource : session.source? fs logical = some source) : source.cleaned? ≠ none := by
  rw [runFrom_draw, isSource] at drawn
  cases rendered : ((session.renderer.pipeline language fs).renderPath source
      session.vars).runFrom registry with
  | mk result registry' =>
    cases result with
    | error e => simp [rendered, Except.mapError] at drawn
    | ok page => exact cleaned_of_renderPath rendered

section

variable (scheduled : order.Perm documents.zipIdx)

include scheduled

/-- A document is rendered once. -/
theorem nodup_of_perm : order.Nodup :=
  scheduled.nodup_iff.mpr (.of_map _ (List.nodup_zipIdx_map_snd documents))

theorem mem_documents_of_perm {entry : Entry} (mem : entry ∈ order) : entry.1 ∈ documents := by
  have named := List.mem_map_of_mem (f := Prod.fst) (scheduled.mem_iff.mp mem)
  rwa [List.zipIdx_map_fst] at named

theorem mem_sourcesOf_of_perm {entry : Entry} {source : Path} (mem : entry ∈ order)
    (isSource : session.source? fs entry.1 = some source) :
    source ∈ session.sourcesOf fs documents :=
  List.mem_filterMap.mpr ⟨entry.1, mem_documents_of_perm scheduled mem, isSource⟩

theorem Apart.pairwise_of_perm (apart : session.Apart fs documents) :
    order.Pairwise fun a b => session.TargetsDiffer fs a.1 b.1 :=
  (scheduled.pairwise_iff TargetsDiffer.symm).mpr apart.pairwise_targetsDiffer

/-- The target of a document that fails is not that of one that is drawn. -/
theorem Apart.place_ne_of_failed (apart : session.Apart fs documents) {registry : Registry R}
    {entry other : Entry} {e : DocumentError} {page : String} {source source' : Path}
    (failed : (entry, .error e) ∈ (session.drawEach language fs registry order).1)
    (drawn : (other, .ok page) ∈ (session.drawEach language fs registry order).1)
    (isSource : session.source? fs entry.1 = some source)
    (isSource' : session.source? fs other.1 = some source') :
    (session.target source').place ≠ (session.target source).place := by
  have once : ((session.drawEach language fs registry order).1.map Prod.fst).Nodup := by
    rw [map_fst_drawEach]
    exact nodup_of_perm scheduled
  have differs : other ≠ entry := by
    rintro rfl
    have same := List.inj_on_of_nodup_map once failed drawn rfl
    cases same
  have : Std.Symm fun a b : Entry => session.TargetsDiffer fs a.1 b.1 := ⟨fun _ _ h => h.symm⟩
  have pair := (apart.pairwise_of_perm scheduled).forall (exists_of_mem_drawEach drawn).1
    (exists_of_mem_drawEach failed).1 differs
  exact pair source' isSource' source isSource

end

section

variable (loaded : session.IsLoaded) (tree : fs.IsTree)

include loaded tree

/-- What is drawn can be written where a file is admitted. -/
theorem accepts_iff_of_mem_drawings {registry : Registry R} {entry : Entry} {page : String}
    {source : Path}
    (mem : (entry, .ok page) ∈ (session.drawEach language fs registry order).1)
    (isSource : session.source? fs entry.1 = some source) :
    fs.Accepts (session.target source) ↔ fs.Admits (session.target source) := by
  obtain ⟨-, registry', drawn⟩ := exists_of_mem_drawEach mem
  have inSources : source ∈ session.sourcesOf fs [entry.1] :=
    List.mem_filterMap.mpr ⟨entry.1, List.mem_singleton_self _, isSource⟩
  exact accepts_target_iff loaded tree inSources (cleaned_of_draw drawn isSource)

theorem RanEach.leaves {registry : Registry R}
    {ran : List (Entry × Except DocumentError Unit) × Workspace (Registry R)}
    (rendered : session.RanEach fs (session.drawEach language fs registry order) fs ran) :
    session.Leaves fs (session.drawEach language fs registry order).1 ran.2.fs where
  page entry page source mem isSource accepts :=
    have admits := (accepts_iff_of_mem_drawings loaded tree mem isSource).mp accepts
    rendered.written _ _ ⟨entry, page, source, mem, isSource, admits, rfl, rfl⟩
  others place noTarget := by
    refine rendered.unwritten place ?_
    rintro content ⟨entry, page, source, mem, isSource, admits, here, -⟩
    have accepts := (accepts_iff_of_mem_drawings loaded tree mem isSource).mpr admits
    exact noTarget entry page source mem isSource accepts here

variable (apart : session.Apart fs documents) (scheduled : order.Perm documents.zipIdx)

include apart scheduled

/-- Rendering each of the documents of a list, in any order. -/
theorem ranEach_of_perm (language : ScriptLanguage R) :
    session.RanEach fs (session.drawEach language fs session.renderer.registry order) fs
      (session.renderEach language { fs, compilers := session.renderer.registry } order) :=
  ranEach_renderDocument language loaded apart.disjoint tree (apart.not_mem_passes loaded)
    (fun _ => mem_documents_of_perm scheduled) (apart.pairwise_of_perm scheduled)
    (w := { fs, compilers := session.renderer.registry }) (.refl tree)

/-- What rendering documents leaves, whatever becomes of each of them: it changes files and runtimes
alone. -/
theorem leaves_renderBy (language : ScriptLanguage R) (notices : List Notice) :
    let drawn := session.drawEach language fs session.renderer.registry order
    let after := renderBy language order documents { fs, session, notices }
    session.Leaves fs drawn.1 after.fs ∧ after.session = session.withRegistry drawn.2 := by
  intro drawn after
  have rendered := ranEach_of_perm loaded tree apart scheduled language
  exact ⟨rendered.leaves loaded tree, congrArg session.withRegistry rendered.compilers⟩

end

/-! ## Section 5: What is told -/

theorem lookup_of_mem {β : Type} {results : List (Entry × β)}
    (distinct : (results.map Prod.fst).Nodup) {entry : Entry} {b : β}
    (mem : (entry, b) ∈ results) : results.lookup entry = some b := by
  obtain ⟨before, after, rfl⟩ := List.append_of_mem mem
  refine List.lookup_eq_some_iff.mpr ⟨before, after, rfl, fun other inBefore => ?_⟩
  rw [List.map_append, List.map_cons, List.nodup_middle, List.nodup_cons] at distinct
  rw [bne_iff_ne]
  rintro rfl
  exact distinct.1 (List.mem_append_left _ (List.mem_map.mpr ⟨other, inBefore, rfl⟩))

section

variable {results : List (Entry × Except DocumentError Unit)}
  (distinct : (results.map Prod.fst).Nodup)

include distinct

/-- The first document of the list that failed is told, whenever that was. -/
theorem noticeOf_of_failure {before after : List Entry} {entry : Entry} {e : DocumentError}
    (split : documents.zipIdx = before ++ entry :: after) (failed : (entry, .error e) ∈ results)
    (earlier : ∀ other ∈ before, (other, .ok ()) ∈ results) :
    noticeOf documents results = .failure ("failed: " ++ entry.1) e.fullMessage := by
  have first : firstFailure documents results = some (entry.1, e) := by
    refine List.findSome?_eq_some_iff.mpr ⟨before, entry, after, split, ?_, fun other mem => ?_⟩
    · rw [failureOf, lookup_of_mem distinct failed]
    · rw [failureOf, lookup_of_mem distinct (earlier other mem)]
  rw [noticeOf, first]

theorem noticeOf_of_success (all : ∀ entry ∈ documents.zipIdx, (entry, .ok ()) ∈ results) :
    noticeOf documents results = .success ("rendered: " ++ ", ".intercalate documents) := by
  have none : firstFailure documents results = none := by
    refine List.findSome?_eq_none_iff.mpr fun entry mem => ?_
    rw [failureOf, lookup_of_mem distinct (all entry mem)]
  rw [noticeOf, none]

end

/-! ## Section 6: A whole rendering -/

/-- What a rendering of documents leaves and tells, by what has been drawn for each of them. -/
structure RendersEach (session : Session R) (fs : FileSystem) (documents : List String)
    (drawings : List (Entry × Except DocumentError String)) (notices : List Notice)
    (after : State R) : Prop where
  /-- A document that is drawn has its page at its target. -/
  page : ∀ entry page source, (entry, .ok page) ∈ drawings →
    session.source? fs entry.1 = some source →
      after.fs.file? (session.target source).place = some page.toByteArray
  /-- The target of one that fails is as it was. -/
  kept : ∀ entry e source, (entry, .error e) ∈ drawings →
    session.source? fs entry.1 = some source →
      after.fs.file? (session.target source).place = fs.file? (session.target source).place
  /-- So is every other file. -/
  others : ∀ place, (∀ source ∈ session.sourcesOf fs documents,
    (session.target source).place ≠ place) → after.fs.file? place = fs.file? place
  /-- The first that fails in the order of the list is told. -/
  failure : ∀ before entry rest e, documents.zipIdx = before ++ entry :: rest →
    (entry, .error e) ∈ drawings →
      (∀ earlier ∈ before, ∃ page, (earlier, .ok page) ∈ drawings) →
        after.notices = notices ++ [.failure ("failed: " ++ entry.1) e.fullMessage]
  /-- If none fails, all are told. -/
  success : (∀ entry ∈ documents.zipIdx, ∃ page, (entry, .ok page) ∈ drawings) →
    after.notices = notices ++ [.success ("rendered: " ++ ", ".intercalate documents)]

/-- If compilers are functions, what is drawn for a document does not depend on the documents before
it. -/
theorem drawn_eq (functional : (session.renderer.compilers language).IsFunctional
      session.renderer.registry) {registry : Registry R}
    (history : (session.renderer.compilers language).History session.renderer.registry registry)
    {entry : Entry} {result : Except DocumentError String}
    (mem : (entry, result) ∈ (session.drawEach language fs registry order).1) :
    result = ((session.draw language fs entry.1).runFrom session.renderer.registry).1 := by
  induction order generalizing registry with
  | nil => cases mem
  | cons first rest ih =>
    have drawn := Renderer.page_of_history functional fs session.vars
    have alike : ((session.draw language fs first.1).runFrom registry).1
          = ((session.draw language fs first.1).runFrom session.renderer.registry).1
        ∧ (session.renderer.compilers language).History session.renderer.registry
          ((session.draw language fs first.1).runFrom registry).2 := by
      rw [runFrom_draw, runFrom_draw]
      cases session.source? fs first.1 with
      | none => exact ⟨rfl, history⟩
      | some source =>
        obtain ⟨isPage, later⟩ := drawn source history
        exact ⟨congrArg (Except.mapError DocumentError.render) isPage, later⟩
    rw [drawEach_cons] at mem
    rcases List.mem_cons.mp mem with same | mem
    · obtain ⟨rfl, rfl⟩ := Prod.mk.inj same
      exact alike.1
    · exact ih alike.2 mem

/-- Documents whose targets are apart and writable: in whatever order they are rendered, that of the
list or another, each that is drawn has its page at its target in the end, the target of one that
fails stays as it was, and no other file changes. What is drawn is what each document has on the files
as they were, with the compilers as they are by then, or at any time if they are functions. The first
document of the list that failed is told, or success if none did. -/
theorem renders_each (language : ScriptLanguage R) (notices : List Notice)
    (loaded : session.IsLoaded) (tree : fs.IsTree) (apart : session.Apart fs documents)
    (writable : ∀ source ∈ session.sourcesOf fs documents, fs.Accepts (session.target source))
    (scheduled : order.Perm documents.zipIdx) :
    let drawings := (session.drawEach language fs session.renderer.registry order).1
    drawings.map Prod.fst = order
      ∧ ((session.renderer.compilers language).IsFunctional session.renderer.registry →
        ∀ entry result, (entry, result) ∈ drawings →
          result = ((session.draw language fs entry.1).runFrom session.renderer.registry).1)
      ∧ session.RendersEach fs documents drawings notices
        (renderBy language order documents { fs, session, notices })
      ∧ render language documents { fs, session, notices }
        = renderBy language documents.zipIdx documents { fs, session, notices } := by
  intro drawings
  have ran := ranEach_of_perm loaded tree apart scheduled language
  have left := ran.leaves loaded tree
  have told : (renderBy language order documents { fs, session, notices }).notices
      = notices ++ [noticeOf documents (session.renderEach language
        { fs, compilers := session.renderer.registry } order).1] := rfl
  have once : ((session.renderEach language { fs, compilers := session.renderer.registry }
      order).1.map Prod.fst).Nodup := by
    rw [renderEach, Step.map_fst_runEach]
    exact nodup_of_perm scheduled
  have inSources {entry : Entry} {result : Except DocumentError String} {source : Path}
      (mem : (entry, result) ∈ drawings) : session.source? fs entry.1 = some source →
        source ∈ session.sourcesOf fs documents :=
    mem_sourcesOf_of_perm scheduled (exists_of_mem_drawEach mem).1
  have succeeded {entry : Entry} (drawn : ∃ page, (entry, .ok page) ∈ drawings) :
      (entry, .ok ()) ∈ (session.renderEach language
        { fs, compilers := session.renderer.registry } order).1 := by
    obtain ⟨page, mem⟩ := drawn
    refine ran.succeeded entry page mem fun source isSource => ?_
    exact (accepts_iff_of_mem_drawings loaded tree mem isSource).mp
      (writable source (inSources mem isSource))
  refine ⟨map_fst_drawEach .., fun functional entry result => drawn_eq functional .start, ?_,
    render_eq_renderBy ..⟩
  constructor
  case page =>
    exact fun entry page source mem isSource =>
      left.page entry page source mem isSource (writable source (inSources mem isSource))
  case kept =>
    exact fun entry e source failed isSource =>
      left.others _ fun other page source' drawn isSource' _ =>
        apart.place_ne_of_failed scheduled failed drawn isSource isSource'
  case others =>
    exact fun place noTarget => left.others place fun entry page source mem isSource _ =>
      noTarget source (inSources mem isSource)
  case failure =>
    intro before entry rest e split mem earlier
    rw [told, noticeOf_of_failure once split (ran.failed entry e mem)
      fun other inBefore => succeeded (earlier other inBefore)]
  case success =>
    intro all
    rw [told, noticeOf_of_success once fun entry mem => succeeded (all entry mem)]

/-- The default session, watching some documents. -/
def watching (documents : List String) : Session Unit := { defaultSession with documents }

theorem isLoaded_watching (documents : List String) : (watching documents).IsLoaded :=
  ⟨isLoaded_defaultSession.resolved, isLoaded_defaultSession.follows⟩

theorem disjoint_watching (outside : ∀ logical ∈ documents,
      ∀ file ∈ (watching documents).candidates logical,
        ¬ defaultConfig.build.output.place <+: (defaultConfig.build.root.join file).place) :
    (watching documents).Disjoint fs documents :=
  have unbroken : ∀ e ∈ defaultConfig.build.extensions, '/' ∉ e.toList := by decide
  have apart : defaultConfig.OutputApart := ⟨by decide, by decide, by decide⟩
  .of_outputApart (isLoaded_watching documents) unbroken apart outside

/-- Three documents, one of which asks for a layout that there is not. -/
def oneFails : FileSystem where
  entries := [([.ofString "w"], .directory),
    ([.ofString "w", .ofString "a.txt"], .file "x".toByteArray),
    ([.ofString "w", .ofString "b.txt"], .file "---\nlayout: l\n---\ny".toByteArray),
    ([.ofString "w", .ofString "c.txt"], .file "z".toByteArray),
    ([.ofString "w", .ofString "public"], .directory),
    ([.ofString "w", .ofString "public", .ofString "b.html"], .file "old".toByteArray)]
  workingDirectory := [.ofString "w"]

/-- A rendering of these documents, the last one first: the page of the one that fails stays. -/
theorem renders_each_oneFails :
    let session := watching ["a", "b", "c"]
    let after := renderBy .none [("c", 2), ("b", 1), ("a", 0)] session.documents
      { fs := oneFails, session }
    let failure : DocumentError := .render (.layoutNotFound "l" (.ofString "b.txt"))
    session.IsLoaded ∧ oneFails.IsTree ∧ session.Apart oneFails session.documents
      ∧ after.fs.file? [.ofString "w", .ofString "public", .ofString "a.html"]
        = some "x".toByteArray
      ∧ after.fs.file? [.ofString "w", .ofString "public", .ofString "b.html"]
        = some "old".toByteArray
      ∧ after.fs.file? [.ofString "w", .ofString "public", .ofString "c.html"]
        = some "z".toByteArray
      ∧ after.notices = [.failure "failed: b" failure.fullMessage] := by
  intro session after failure
  have loaded : session.IsLoaded := isLoaded_watching _
  have tree : oneFails.IsTree := by decide +kernel
  have apart : session.Apart oneFails session.documents :=
    ⟨disjoint_watching (by decide +kernel), by decide +kernel, by decide +kernel⟩
  have backwards : List.Perm [("c", 2), ("b", 1), ("a", 0)] session.documents.zipIdx := by
    decide +kernel
  obtain ⟨-, -, each, -⟩ := renders_each .none [] loaded tree apart (by decide +kernel) backwards
  refine ⟨loaded, tree, apart, ?_, ?_, ?_, ?_⟩
  · exact each.page ("a", 0) "x" (.ofString "a.txt") (by decide +kernel) (by decide +kernel)
  · exact each.kept ("b", 1) failure (.ofString "b.txt") (by decide +kernel) (by decide +kernel)
  · exact each.page ("c", 2) "z" (.ofString "c.txt") (by decide +kernel) (by decide +kernel)
  · refine each.failure [("a", 0)] ("b", 1) [("c", 2)] failure rfl (by decide +kernel) ?_
    exact List.forall_mem_singleton.mpr ⟨"x", by decide +kernel⟩

/-- A document whose target is a directory on the way to the target of another. -/
def nestedTargets : FileSystem where
  entries := [([.ofString "w"], .directory),
    ([.ofString "w", .ofString "x.txt"], .file "a".toByteArray),
    ([.ofString "w", .ofString "x.html"], .directory),
    ([.ofString "w", .ofString "x.html", .ofString "b.txt"], .file "b".toByteArray)]
  workingDirectory := [.ofString "w"]

/-- Each of two targets can be written, but not both, if one of them is below the other: whichever
document comes first holds the other back. -/
theorem not_rendersEach_nestedTargets :
    let session := watching ["x", "x.html/b"]
    let orders := [session.documents.zipIdx, session.documents.zipIdx.reverse]
    session.IsLoaded ∧ nestedTargets.IsTree ∧ session.Disjoint nestedTargets session.documents
      ∧ ((session.sourcesOf nestedTargets session.documents).Pairwise fun a b =>
        (session.target a).place ≠ (session.target b).place)
      ∧ (∀ source ∈ session.sourcesOf nestedTargets session.documents,
        nestedTargets.Accepts (session.target source))
      ∧ ∀ order ∈ orders,
        ¬ session.RendersEach nestedTargets session.documents
          (session.drawEach .none nestedTargets session.renderer.registry order).1 []
          (renderBy .none order session.documents { fs := nestedTargets, session }) := by
  intro session orders
  -- in both orders, both documents are drawn, but one target stays without its page
  have drawn : ∀ order ∈ orders,
      let drawings := (session.drawEach .none nestedTargets session.renderer.registry order).1
      (("x", 0), .ok "a") ∈ drawings ∧ (("x.html/b", 1), .ok "b") ∈ drawings := by
    decide +kernel
  have notBoth : ∀ order ∈ orders,
      let files := (renderBy .none order session.documents { fs := nestedTargets, session }).fs
      ¬ (files.file? (session.target (.ofString "x.txt")).place = some "a".toByteArray
        ∧ files.file? (session.target (.ofString "x.html/b.txt")).place
          = some "b".toByteArray) := by
    decide +kernel
  refine ⟨isLoaded_watching _, by decide +kernel, disjoint_watching (by decide +kernel),
    by decide +kernel, by decide +kernel, fun order mem each => ?_⟩
  obtain ⟨above, below⟩ := drawn order mem
  exact notBoth order mem
    ⟨each.page ("x", 0) "a" (.ofString "x.txt") above (by decide +kernel),
      each.page ("x.html/b", 1) "b" (.ofString "x.html/b.txt") below (by decide +kernel)⟩

end Session

end Folio
