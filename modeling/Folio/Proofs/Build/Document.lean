import Folio.Build
import Folio.Proofs.FileSystem.Change
import Folio.Proofs.Path.Target
import Folio.Proofs.Renderer.Reads

/-!
# Rendering documents one after the other

A document that is rendered to its target changes one file. As long as targets are no files that
renderings read, and different documents have different targets, every document is rendered as if it
were the only one, whatever has been rendered before.

Main definitions:
- `Renderer.page`: what a document is rendered to
- `Renderer.Apart`: targets that no rendering reads
- `Renderer.Rendered`: the files after some documents have been rendered

Main statements: `renderTo_eq_ok` and `Renderer.Rendered.renderTo`.
-/

namespace Folio

/-! ## Section 1: Work on files -/

namespace Work

variable {S ε α : Type} {w w' : Workspace S}

theorem runFrom_onFiles (refusal : IoError → ε) (change : FileSystem → Except IoError FileSystem)
    (w : Workspace S) : (onFiles refusal change : Work S ε Unit).runFrom w
      = match change w.fs with
        | .ok fs => (.ok (), { w with fs })
        | .error cause => (.error (refusal cause), w) := by
  unfold onFiles
  rw [Step.runFrom_get_bind]
  cases change w.fs <;> rfl

theorem onFiles_eq_ok {refusal : IoError → ε} {change : FileSystem → Except IoError FileSystem}
    (h : (onFiles refusal change : Work S ε Unit).runFrom w = (.ok (), w')) :
    ∃ fs, change w.fs = .ok fs ∧ w' = { w with fs } := by
  rw [runFrom_onFiles] at h
  cases changed : change w.fs with
  | error e => simp [changed] at h
  | ok fs =>
    rw [changed] at h
    exact ⟨fs, rfl, (Prod.mk.inj h).2.symm⟩

theorem render_eq_ok {refusal : RenderError → ε} {pipelineAt : FileSystem → Pipeline S}
    {rendering : Pipeline S → Rendering S α} {a : α}
    (h : (render refusal pipelineAt rendering).runFrom w = (.ok a, w')) :
    ∃ compilers, (rendering (pipelineAt w.fs)).runFrom w.compilers = (.ok a, compilers)
      ∧ w' = { w with compilers } := by
  unfold render at h
  rw [Step.runFrom_get_bind] at h
  cases rendered : (rendering (pipelineAt w.fs)).runFrom w.compilers with
  | mk result compilers =>
    have run : (rendering (pipelineAt w.fs)).run.run w.compilers = (result, compilers) := rendered
    rw [run] at h
    obtain ⟨⟨⟩, w₃, set, h⟩ := Step.runFrom_bind_eq_ok h
    obtain rfl : { w with compilers } = w₃ := by simpa using set
    cases result with
    | error e => simp at h
    | ok b =>
      obtain ⟨rfl, rfl⟩ : b = a ∧ { w with compilers } = w' := by simpa using h
      exact ⟨compilers, rfl, rfl⟩

end Work

/-- A document that has been rendered to a file: its page is there, and all other files are as
before. -/
theorem renderTo_eq_ok {S : Type} {pipelineAt : FileSystem → Pipeline S} {source target : Path}
    {vars : Variables} {w w' : Workspace S} (absolute : target.isAbsolute)
    (h : (renderTo pipelineAt source target vars).runFrom w = (.ok (), w')) :
    ∃ page, ((pipelineAt w.fs).renderPath source vars).runFrom w.compilers
        = (.ok page, w'.compilers)
      ∧ w.fs.Writes target.place page.toByteArray w'.fs
      ∧ w'.fs.locate target = .ok target.place
      ∧ FileSystem.asksForDirectory target = false := by
  unfold renderTo at h
  obtain ⟨page, w₁, drawn, h⟩ := Step.runFrom_bind_eq_ok h
  obtain ⟨compilers, rendered, rfl⟩ := Work.render_eq_ok drawn
  -- a target without a parent has no directory to be made
  obtain ⟨w₂, grows, compilers', written⟩ : ∃ w₂ : Workspace S, w.fs.Grows w₂.fs
      ∧ w₂.compilers = compilers
      ∧ (Work.onFiles (DocumentError.notWritten target) fun fs => fs.writeText target page).runFrom w₂
          = (.ok (), w') := by
    cases above : target.parent? with
    | none =>
      rw [above] at h
      exact ⟨{ w with compilers }, .refl _, rfl, h⟩
    | some parent =>
      rw [above] at h
      obtain ⟨⟨⟩, w₂, directory, written⟩ := Step.runFrom_bind_eq_ok h
      obtain ⟨fs, made, rfl⟩ := Work.onFiles_eq_ok directory
      exact ⟨_, (FileSystem.createDirectories_eq_ok made).1, rfl, written⟩
  obtain ⟨fs, wrote, rfl⟩ := Work.onFiles_eq_ok written
  obtain ⟨place, located, writes, notAsked⟩ := FileSystem.write_eq_ok wrote
  obtain rfl := FileSystem.locate_eq_ok absolute located
  refine ⟨page, ?_, grows.writes writes, ?_, notAsked⟩
  · rw [rendered, ← compilers']
  · exact writes.keeps.locate writes.workingDirectory located

/-! ## Section 2: One document among others -/

/-- A path that is a row of names. -/
def Path.IsRow (p : Path) : Prop :=
  ∃ names, names ≠ [] ∧ (∀ name ∈ names, name.IsSegment) ∧ p = Path.ofNames names

theorem Path.IsRow.isAbsolute_targetIn {source output : Path} (row : source.IsRow)
    (absolute : output.isAbsolute) : (output.targetIn source).isAbsolute := by
  obtain ⟨names, nonempty, valid, rfl⟩ := row
  exact (Path.steps_targetIn absolute nonempty valid).1

namespace Renderer

variable {R : Type} {language : ScriptLanguage R} {renderer : Renderer R} {output : Path}
  {vars : Variables} {base : FileSystem} {sources done : List Path} {source : Path}
  {w w' : Workspace (Registry R)}

/-- The compilers of a renderer. -/
def compilers (language : ScriptLanguage R) (renderer : Renderer R) : Compilers (Registry R) :=
  fun file text registry => registry.compile language file text renderer.site

/-- What a document is rendered to. -/
def page (language : ScriptLanguage R) (renderer : Renderer R) (fs : FileSystem) (vars : Variables)
    (source : Path) : Except RenderError String :=
  (((renderer.pipeline language fs).renderPath source vars).runFrom renderer.registry).1

/-- Compilers that are functions give the same page with whatever they have converted before. -/
theorem page_of_history (functional : (renderer.compilers language).IsFunctional renderer.registry)
    (fs : FileSystem) (vars : Variables) (source : Path) {registry : Registry R}
    (history : (renderer.compilers language).History renderer.registry registry) :
    (((renderer.pipeline language fs).renderPath source vars).runFrom registry).1
        = renderer.page language fs vars source
      ∧ (renderer.compilers language).History renderer.registry
          (((renderer.pipeline language fs).renderPath source vars).runFrom registry).2 :=
  Pipeline.renderPath_yields (p := renderer.pipeline language fs) functional source vars registry
    history

/-- Compilers without scripts are functions. -/
theorem isFunctional_of_no_scripts (h : renderer.registry.scripts = []) :
    (renderer.compilers language).IsFunctional renderer.registry := by
  -- only a script changes the registry that it is called in
  have kept (file : Path) (text : String) :
      (renderer.registry.compile language file text renderer.site).2 = renderer.registry := by
    unfold Registry.compile
    split
    · rfl
    · rfl
    · simp [h]
  have same {registry : Registry R}
      (history : (renderer.compilers language).History renderer.registry registry) :
      registry = renderer.registry := by
    induction history with
    | start => rfl
    | next _ file text ih =>
      rw [ih]
      exact kept file text
  intro registry history file text
  rw [same history]

/-- Documents whose targets are told apart, and are neither documents, layouts nor partials. -/
structure Apart (renderer : Renderer R) (output : Path) (sources : List Path) : Prop where
  row : ∀ source ∈ sources, source.IsRow
  unread : ∀ source ∈ sources, ¬ renderer.Reads (output.targetIn source).place
  noSource : ∀ source ∈ sources, ∀ other ∈ sources,
    (output.targetIn source).place ≠ (renderer.root.join other).place
  distinct : ∀ source ∈ sources, ∀ other ∈ sources,
    (output.targetIn source).place = (output.targetIn other).place → source = other

/-- What there is after some documents have been rendered that were on the files of `base`. -/
structure Rendered (language : ScriptLanguage R) (renderer : Renderer R) (output : Path)
    (vars : Variables) (base : FileSystem) (done : List Path) (w : Workspace (Registry R)) :
    Prop where
  tree : w.fs.IsTree
  keeps : base.Keeps w.fs
  workingDirectory : w.fs.workingDirectory = base.workingDirectory
  history : (renderer.compilers language).History renderer.registry w.compilers
  /-- The target of each document holds the page that the document has on the files of `base`. -/
  page : ∀ source ∈ done, ∃ page, renderer.page language base vars source = .ok page
    ∧ w.fs.file? (output.targetIn source).place = some page.toByteArray
    ∧ w.fs.locate (output.targetIn source) = .ok (output.targetIn source).place
    ∧ FileSystem.asksForDirectory (output.targetIn source) = false
  other : ∀ place, (∀ source ∈ done, (output.targetIn source).place ≠ place) →
    w.fs.file? place = base.file? place

theorem Rendered.start (tree : base.IsTree) {notices : List Notice} :
    renderer.Rendered language output vars base []
      { fs := base, compilers := renderer.registry, notices } where
  tree := tree
  keeps := fun _ => id
  workingDirectory := rfl
  history := .start
  page := by simp
  other := fun _ _ => rfl

variable (placed : renderer.IsPlaced) (unbroken : ∀ e ∈ renderer.extensions, '/' ∉ e.toList)
  (functional : (renderer.compilers language).IsFunctional renderer.registry)
  (absolute : output.isAbsolute) (apart : renderer.Apart output sources)

include placed unbroken functional apart

/-- Whatever documents have been rendered, the others have the page that they had before. -/
theorem Rendered.page_eq (tree : base.IsTree)
    (rendered : renderer.Rendered language output vars base done w) (subset : done ⊆ sources)
    (mem : source ∈ sources) :
    (((renderer.pipeline language w.fs).renderPath source vars).runFrom w.compilers).1
        = renderer.page language base vars source
      ∧ (renderer.compilers language).History renderer.registry
          (((renderer.pipeline language w.fs).renderPath source vars).runFrom w.compilers).2 := by
  -- only targets have changed, and no target is read
  have same : renderer.SameReads base w.fs := by
    refine ⟨tree, rendered.tree, fun place reads => (rendered.other place ?_).symm⟩
    rintro other inDone rfl
    exact apart.unread other (subset inDone) reads
  have unwritten : w.fs.file? (renderer.root.join source).place
      = base.file? (renderer.root.join source).place :=
    rendered.other _ fun other inDone => apart.noSource other (subset inDone) source mem
  obtain ⟨names, nonempty, valid, rfl⟩ := apart.row source mem
  rw [(Path.join_ofNames placed.root valid).2] at unwritten
  rw [← renderPath_congr placed unbroken language same valid unwritten.symm vars w.compilers]
  exact page_of_history functional base vars _ rendered.history

include absolute

/-- Rendering one more document leaves the pages of the others as they are. -/
theorem Rendered.renderTo (tree : base.IsTree)
    (rendered : renderer.Rendered language output vars base done w) (subset : done ⊆ sources)
    (mem : source ∈ sources)
    (h : (renderTo (renderer.pipeline language) source (output.targetIn source) vars).runFrom w
      = (.ok (), w')) :
    renderer.Rendered language output vars base (source :: done) w' := by
  obtain ⟨page, drawn, writes, located, notAsked⟩ :=
    renderTo_eq_ok ((apart.row source mem).isAbsolute_targetIn absolute) h
  obtain ⟨isPage, history⟩ := rendered.page_eq placed unbroken functional apart tree subset mem
  rw [drawn] at isPage history
  refine ⟨writes.tree rendered.tree, rendered.keeps.trans writes.keeps,
    writes.workingDirectory.trans rendered.workingDirectory, history, ?_, ?_⟩
  · intro other inDone
    rw [writes.file?]
    -- the target that has been written is that of this document alone
    by_cases same : (output.targetIn other).place = (output.targetIn source).place
    · have inSources : other ∈ sources := by
        rcases List.mem_cons.mp inDone with rfl | inDone
        · exact mem
        · exact subset inDone
      obtain rfl := apart.distinct other inSources source mem same
      exact ⟨page, isPage.symm, if_pos rfl, located, notAsked⟩
    · have before : other ∈ done := by
        rcases List.mem_cons.mp inDone with rfl | inDone
        · exact absurd rfl same
        · exact inDone
      rw [if_neg same]
      obtain ⟨page', isPage', file, located', notAsked'⟩ := rendered.page other before
      exact ⟨page', isPage', file, writes.keeps.locate writes.workingDirectory located', notAsked'⟩
  · intro place noTarget
    rw [writes.file?, if_neg (Ne.symm (noTarget source List.mem_cons_self))]
    exact rendered.other place fun other inDone => noTarget other (List.mem_cons_of_mem _ inDone)

end Renderer

end Folio
