import Folio.Proofs.Build.Documents

/-!
# What a build leaves

A build renders every document on the files as they were when the output directory had been
prepared, in whatever order the documents are taken: targets are in the output directory, and
documents, layouts and partials are not.

Main statements:
- `prepareOutput_eq_ok`: what preparing the output directory leaves
- `Config.apart_documents`: no target is read
- `siteBuilt_of_buildSiteBy`: what a build leaves
-/

namespace Folio

/-! ## Section 1: The output directory -/

section Prepare

variable {S : Type} {output : Path} {clean : Bool} {w w' : Workspace S}

/-- Preparing the output directory makes it, and removes what was in it if it is to be cleared and
the path to it leads somewhere. -/
theorem prepareOutput_steps (absolute : output.isAbsolute)
    (h : (prepareOutput output clean).runFrom w = (.ok (), w')) :
    ∃ cleared fs' : FileSystem,
      ((clean ∧ w.fs.locate output = .ok output.place ∧ cleared = w.fs.prune output.place)
          ∨ (¬ (clean && w.fs.pathExists output) ∧ cleared = w.fs))
      ∧ cleared.createDirectories output = .ok fs' ∧ w' = { w with fs := fs' } := by
  unfold prepareOutput at h
  rw [Step.runFrom_get_bind] at h
  dsimp only at h
  -- it is cleared only if it is to be and is there
  split at h
  · rename_i asked
    obtain ⟨⟨⟩, w₃, removing, h⟩ := Step.runFrom_bind_eq_ok h
    obtain ⟨cleared, removed, rfl⟩ := Work.onFiles_eq_ok removing
    obtain ⟨fs', made, rfl⟩ := Work.onFiles_eq_ok h
    obtain ⟨place, located, -, rfl⟩ := FileSystem.removeDirectories_eq_ok removed
    obtain rfl := FileSystem.locate_eq_ok absolute located
    exact ⟨_, fs', .inl ⟨(Bool.and_eq_true_iff.mp asked).1, located, rfl⟩, made, rfl⟩
  · rename_i notAsked
    obtain ⟨fs', made, rfl⟩ := Work.onFiles_eq_ok h
    exact ⟨_, fs', .inr ⟨notAsked, rfl⟩, made, rfl⟩

/-- Preparing the output directory leads to a tree. If it is to be cleared, nothing of it is left just
when the path to it leads somewhere, or nothing was there. -/
theorem prepareOutput_eq_ok (tree : w.fs.IsTree) (absolute : output.isAbsolute)
    (h : (prepareOutput output clean).runFrom w = (.ok (), w')) :
    w'.fs.IsTree ∧ w' = { w with fs := w'.fs }
      ∧ ((∀ place, w'.fs.file? place
            = if clean ∧ output.place <+: place then none else w.fs.file? place)
          ↔ (clean → (∃ place, w.fs.locate output = .ok place)
              ∨ ∀ place, output.place <+: place → w.fs.file? place = none)) := by
  obtain ⟨cleared, fs', removed, made, rfl⟩ := prepareOutput_steps absolute h
  obtain ⟨grows, isDirectory⟩ := FileSystem.createDirectories_eq_ok made
  rcases removed with ⟨isClean, located, rfl⟩ | ⟨notAsked, rfl⟩
  · refine ⟨grows.tree (tree.prune _), rfl, fun _ _ => .inl ⟨_, located⟩, fun _ place => ?_⟩
    dsimp only
    rw [grows.file?, FileSystem.file?_prune]
    simp [isClean]
  · refine ⟨grows.tree tree, rfl, fun all isClean => .inr fun place inside => ?_, fun found place => ?_⟩
    · rw [← grows.file?, all place, if_pos ⟨isClean, inside⟩]
    · dsimp only
      rw [grows.file?]
      split
      · -- a directory with a file in it would have been removed
        rename_i inside
        obtain ⟨isClean, inside⟩ := inside
        rcases found isClean with ⟨q, located⟩ | nothing
        · obtain rfl := FileSystem.locate_eq_ok absolute located
          obtain ⟨q', located', directory⟩ := FileSystem.isDirectory_iff.mp
            (isDirectory (Path.bytes_ne_nil_of_isAbsolute absolute))
          obtain rfl := FileSystem.locate_eq_ok absolute located'
          cases file : w.fs.file? place with
          | none => rfl
          | some content =>
            have found := grows.isDirectory_of_file tree located directory inside file
            exact absurd (by simp [isClean, FileSystem.pathExists_of_isDirectory found]) notAsked
        · exact nothing place inside
      · rfl

end Prepare

/-! ## Section 2: Targets -/

namespace Config

variable {R : Type} {renderer : Renderer R} {config : Config} {fs : FileSystem}

/-- The targets of documents are read by no rendering, if none of them is a document. -/
theorem apart_documents (tree : fs.IsTree) (resolved : config.IsResolved)
    (follows : renderer.Follows config) (apart : config.OutputApart)
    (targets : config.TargetsApart fs) (unbroken : ∀ e ∈ config.build.extensions, '/' ∉ e.toList)
    (distinct : (config.documents fs).Pairwise fun a b =>
      ¬ (config.build.output.targetIn a).equiv (config.build.output.targetIn b)) :
    renderer.Apart config.build.output (config.documents fs) := by
  have rows : ∀ document ∈ config.documents fs, document.IsRow := fun document mem =>
    isRow_of_mem_documents tree mem
  refine ⟨rows, fun document mem => ?_, fun document mem other otherMem => ?_,
    fun document mem other otherMem same => ?_⟩
  · exact apart.not_reads_target resolved.isAbsolute follows unbroken (rows document mem)
  · rw [follows.root]
    exact targets document mem other otherMem
  · by_contra differs
    have symmetric : Std.Symm fun a b =>
        ¬ (config.build.output.targetIn a).equiv (config.build.output.targetIn b) :=
      ⟨fun a b h => by simpa [Path.equiv, eq_comm] using h⟩
    refine distinct.forall mem otherMem differs ?_
    obtain ⟨names, nonempty, valid, rfl⟩ := rows document mem
    obtain ⟨names', nonempty', valid', rfl⟩ := rows other otherMem
    rw [Path.place_targetIn resolved.output nonempty valid,
      Path.place_targetIn resolved.output nonempty' valid', List.append_cancel_left_eq] at same
    exact (Path.targetIn_equiv_iff resolved.output nonempty nonempty' valid valid').mpr same

end Config

/-! ## Section 3: One document after the other -/

theorem buildDocument_eq_ok {S : Type} {pipelineAt : FileSystem → Pipeline S} {source target : Path}
    {w w' : Workspace S} (h : (buildDocument pipelineAt source target).runFrom w = (.ok (), w')) :
    (renderTo pipelineAt source target .empty).runFrom w = (.ok (), w') := by
  cases run : (renderTo pipelineAt source target .empty).runFrom w with
  | mk result w₁ =>
    have run' : (renderTo pipelineAt source target .empty).run.run w = (result, w₁) := run
    change (buildDocument pipelineAt source target) w = _ at h
    unfold buildDocument at h
    rw [run'] at h
    cases result with
    | error e => cases h
    | ok done =>
      obtain ⟨-, rfl⟩ := Prod.mk.inj h
      rfl

namespace Renderer

variable {R : Type} {language : ScriptLanguage R} {renderer : Renderer R} {output : Path}
  {base : FileSystem} {sources done : List Path}

/-- Rendering documents one after the other gives each the page that it has on the files as they
were before. -/
theorem Rendered.buildDocuments (placed : renderer.IsPlaced)
    (unbroken : ∀ e ∈ renderer.extensions, '/' ∉ e.toList)
    (functional : (renderer.compilers language).IsFunctional renderer.registry)
    (absolute : output.isAbsolute) (apart : renderer.Apart output sources) (tree : base.IsTree)
    {todo : List Path} (todoSubset : todo ⊆ sources) (subset : done ⊆ sources)
    {w w' : Workspace (Registry R)}
    (rendered : renderer.Rendered language output .empty base done w)
    (h : (buildDocuments (renderer.pipeline language)
      (todo.map fun d => (d, output.targetIn d))).runFrom w = (.ok (), w')) :
    renderer.Rendered language output .empty base (todo.reverse ++ done) w' := by
  induction todo generalizing done w with
  | nil =>
    obtain rfl : w = w' := by simpa [Folio.buildDocuments] using h
    exact rendered
  | cons source rest ih =>
    rw [List.map_cons, Folio.buildDocuments] at h
    obtain ⟨⟨⟩, w₁, first, others⟩ := Step.runFrom_bind_eq_ok h
    have mem := todoSubset List.mem_cons_self
    have next := rendered.renderTo placed unbroken functional absolute apart tree subset mem
      (buildDocument_eq_ok first)
    have more := ih (fun d inRest => todoSubset (List.mem_cons_of_mem _ inRest))
      (List.cons_subset.mpr ⟨mem, subset⟩) next others
    simpa using more

end Renderer

/-! ## Section 4: A whole build -/

theorem buildSiteBy_steps {S : Type} {schedule : List (Path × Path) → List (Path × Path)}
    {pipelineAt : FileSystem → Pipeline S} {config : Config} {w w' : Workspace S} {n : Nat}
    (h : (buildSiteBy schedule pipelineAt config).runFrom w = (.ok n, w')) :
    ∃ (prepared : Workspace S) (targets : List (Path × Path)) (w₁ w₂ : Workspace S),
      (prepareOutput config.build.output config.build.clean).runFrom w = (.ok (), prepared)
      ∧ Targets.plan config.build.output (config.documents prepared.fs) = .ok targets
      ∧ n = targets.length
      ∧ w₁.fs = prepared.fs ∧ w₁.compilers = prepared.compilers
      ∧ (buildDocuments pipelineAt (schedule targets)).runFrom w₁ = (.ok (), w₂)
      ∧ w'.fs = w₂.fs := by
  unfold buildSiteBy at h
  obtain ⟨⟨⟩, prepared, preparing, h⟩ := Step.runFrom_bind_eq_ok h
  rw [Step.runFrom_get_bind] at h
  cases planned : Targets.plan config.build.output (config.documents prepared.fs) with
  | error found => simp [planned] at h
  | ok targets =>
    dsimp only at h
    rw [planned] at h
    obtain ⟨⟨⟩, w₁, begun, h⟩ := Step.runFrom_bind_eq_ok h
    obtain ⟨⟨⟩, w₂, built, h⟩ := Step.runFrom_bind_eq_ok h
    obtain ⟨⟨⟩, w₃, ended, h⟩ := Step.runFrom_bind_eq_ok h
    simp only [Work.tell, Step.runFrom_modify, Prod.mk.injEq, true_and] at begun ended
    obtain ⟨rfl, rfl⟩ : targets.length = n ∧ w₃ = w' := by simpa using h
    refine ⟨prepared, targets, w₁, w₂, preparing, planned, rfl, ?_, ?_, built, ?_⟩
    · rw [← begun]
    · rw [← begun]
    · rw [← ended]

/-- A plan in another order is the plan of the documents in another order. -/
theorem exists_documents_of_perm {output : Path} {documents : List Path}
    {targets : List (Path × Path)}
    (order : targets.Perm (documents.map fun d => (d, output.targetIn d))) :
    ∃ todo : List Path, todo.Perm documents
      ∧ targets = todo.map fun d => (d, output.targetIn d) := by
  refine ⟨targets.map Prod.fst, ?_, ?_⟩
  · have firsts := order.map Prod.fst
    rw [List.map_map] at firsts
    simpa [Function.comp_def] using firsts
  · rw [List.map_map]
    -- a pair of the plan is told by its document
    have planned : ∀ pair ∈ targets, (pair.1, output.targetIn pair.1) = pair := by
      intro pair mem
      obtain ⟨d, -, rfl⟩ := List.mem_map.mp (order.subset mem)
      rfl
    exact (List.map_id targets).symm.trans (List.map_congr_left fun pair mem => (planned pair mem).symm)

/-- What a build of `n` documents leaves on the files `after`. On the files `prepared`, the output
directory has been prepared and no document has been rendered. -/
structure Renderer.SiteBuilt {R : Type} (language : ScriptLanguage R) (renderer : Renderer R)
    (config : Config) (w : Workspace (Registry R)) (n : Nat) (prepared after : FileSystem) :
    Prop where
  preparing : (prepareOutput config.build.output config.build.clean).runFrom w
    = (.ok (), { w with fs := prepared })
  count : n = (config.documents prepared).length
  /-- Documents have different targets. -/
  distinct : (config.documents prepared).Pairwise fun a b =>
    (config.build.output.targetIn a).place ≠ (config.build.output.targetIn b).place
  /-- Each target holds the page of its document, as it was before any document was written. -/
  page : ∀ document ∈ config.documents prepared, ∃ page,
    renderer.page language prepared .empty document = .ok page
      ∧ after.readText (config.build.output.targetIn document) = .ok page
  /-- All other files are as they were when the output directory had been prepared. -/
  other : ∀ place, (∀ document ∈ config.documents prepared,
      (config.build.output.targetIn document).place ≠ place) →
    after.file? place = prepared.file? place
  /-- Then all files were as before, apart from those in an output directory that is cleared. -/
  kept : ∀ place, prepared.file? place
    = if config.build.clean ∧ config.build.output.place <+: place then none else w.fs.file? place

/-- A build that succeeds renders the documents that there are once the output directory has been
prepared, each to the page that it has on the files as they are then, whatever the order. Extensions
must have no separators, which can lead out of the directories of layouts and partials, and the
spelling of the output directory must neither keep it from being cleared nor make a target a
document. -/
theorem siteBuilt_of_buildSiteBy {R : Type} {language : ScriptLanguage R}
    {loaded compiled fs : FileSystem} {commandLine : CommandLine} {config : Config}
    {renderer : Renderer R} {schedule : List (Path × Path) → List (Path × Path)}
    {notices : List Notice} {n : Nat} {after : Workspace (Registry R)}
    (tree₀ : loaded.IsTree) (settings : Config.load loaded commandLine = .ok config)
    (compilers : Renderer.ofConfig language compiled config = .ok renderer)
    (functional : (renderer.compilers language).IsFunctional renderer.registry)
    (apart : config.OutputApart) (unbroken : ∀ e ∈ config.build.extensions, '/' ∉ e.toList)
    (tree : fs.IsTree) (cleared : config.OutputCleared fs)
    (targets : ∀ prepared, (prepareOutput config.build.output config.build.clean).runFrom
        ({ fs, compilers := renderer.registry, notices } : Workspace (Registry R)) = (.ok (), prepared) →
      config.TargetsApart prepared.fs)
    (order : ∀ targets, (schedule targets).Perm targets)
    (built : (buildSiteBy schedule (renderer.pipeline language) config).runFrom
      { fs, compilers := renderer.registry, notices } = (.ok n, after)) :
    ∃ prepared, renderer.SiteBuilt language config
      { fs, compilers := renderer.registry, notices } n prepared after.fs := by
  have resolved := Config.load_isResolved tree₀ settings
  have follows := Renderer.ofConfig_follows compilers
  obtain ⟨prepared, plan, w₁, w₂, preparing, planned, rfl, files, registry, rendering, last⟩ :=
    buildSiteBy_steps built
  obtain ⟨tree', same, kept⟩ := prepareOutput_eq_ok tree resolved.output preparing
  obtain ⟨rfl, distinct⟩ := Targets.plan_eq_ok planned
  have noDocument := targets prepared preparing
  rw [same] at preparing registry
  -- whatever the order, it is the same documents that are rendered
  obtain ⟨todo, perm, scheduled⟩ := exists_documents_of_perm
    (order ((config.documents prepared.fs).map fun d => (d, config.build.output.targetIn d)))
  rw [scheduled] at rendering
  have isApart := Config.apart_documents tree' resolved follows apart noDocument unbroken distinct
  have placed := follows.isPlaced resolved
  have unbroken' : ∀ e ∈ renderer.extensions, '/' ∉ e.toList := follows.extensions ▸ unbroken
  have start : renderer.Rendered language config.build.output .empty prepared.fs [] w₁ := by
    obtain ⟨fs', compilers', notices'⟩ := w₁
    obtain rfl : fs' = prepared.fs := files
    obtain rfl : compilers' = renderer.registry := registry
    exact .start tree'
  have rendered := start.buildDocuments placed unbroken' functional resolved.output isApart tree'
    perm.subset (List.nil_subset _) rendering
  rw [List.append_nil] at rendered
  have everyDocument {document : Path} :
      document ∈ todo.reverse ↔ document ∈ config.documents prepared.fs := by
    rw [List.mem_reverse, perm.mem_iff]
  refine ⟨prepared.fs, preparing, by simp, ?_, ?_, ?_, kept.mpr cleared⟩
  · refine distinct.imp_of_mem fun {a b} memA memB differs same => differs ?_
    rw [isApart.distinct a memA b memB same]
    simp [Path.equiv]
  · intro document mem
    obtain ⟨page, isPage, file, located, notAsked⟩ := rendered.page document (everyDocument.mpr mem)
    refine ⟨page, isPage, ?_⟩
    rw [last]
    exact FileSystem.readText_of_file? located file notAsked
  · intro place noTarget
    rw [last]
    exact rendered.other place fun document mem => noTarget document (everyDocument.mp mem)

/-- A page in a layout and a page of an earlier build, below the working directory. -/
def pageInLayout : FileSystem where
  entries := [([.ofString "w"], .directory),
    ([.ofString "w", .ofString "_layouts"], .directory),
    ([.ofString "w", .ofString "_layouts", .ofString "l.html"],
      .file "<[[quire:body]]>".toByteArray),
    ([.ofString "w", .ofString "a.txt"], .file "---\nlayout: l\n---\nx".toByteArray),
    ([.ofString "w", .ofString "b.txt"], .file "y".toByteArray),
    ([.ofString "w", .ofString "public"], .directory),
    ([.ofString "w", .ofString "public", .ofString "a.html"], .file "z".toByteArray)]
  workingDirectory := [.ofString "w"]

/-- The settings of a project without a settings file in the working directory. -/
def defaultConfig : Config where
  configPath := .ofString "/w/quire.toml"
  build := { root := .ofString "/w", output := .ofString "/w/public" }

/-- The renderer of these settings. -/
def defaultRenderer : Renderer Unit where
  root := defaultConfig.build.root
  layouts := defaultConfig.build.layouts
  includes := defaultConfig.build.includes
  extensions := defaultConfig.build.extensions
  site := {}
  registry := Registry.withDefaults

/-- The language without programs. -/
def ScriptLanguage.none : ScriptLanguage Unit where
  load _ _ := .none
  setGlobal _ _ := pure ()
  call := pure .none
  globalText? _ := pure .none

/-- A build of two documents, the last one first. -/
theorem siteBuilt_pageInLayout :
    let w : Workspace (Registry Unit) :=
      { fs := pageInLayout, compilers := defaultRenderer.registry }
    let run := (buildSiteBy List.reverse (defaultRenderer.pipeline .none) defaultConfig).runFrom w
    run.1 = .ok 2 ∧ ∃ prepared,
      defaultRenderer.SiteBuilt .none defaultConfig w 2 prepared run.2.fs := by
  intro w run
  have built : run.1 = .ok 2 := by decide +kernel
  have settings : Config.load pageInLayout
      { config := .ofString "quire.toml", command := .build .none false } = .ok defaultConfig := by
    rfl
  have compilers : Renderer.ofConfig .none pageInLayout defaultConfig = .ok defaultRenderer := by
    rfl
  have tree : pageInLayout.IsTree := by decide +kernel
  have plain : defaultConfig.build.output.IsPlain := ⟨by decide, by decide⟩
  have apart : defaultConfig.OutputApart := ⟨by decide, by decide, by decide⟩
  refine ⟨built, siteBuilt_of_buildSiteBy tree settings compilers
    (Renderer.isFunctional_of_no_scripts rfl) apart (by decide) tree (.of_isPlain tree plain)
    (fun prepared preparing => ?_) List.reverse_perm (Prod.ext built rfl)⟩
  have tree' := (prepareOutput_eq_ok tree plain.absolute preparing).1
  exact .of_output tree' (Config.load_isResolved tree settings) apart (.inl plain)

/-- A page of an earlier build. -/
def pageInOutput : FileSystem where
  entries := [([.ofString "w"], .directory),
    ([.ofString "w", .ofString "a.txt"], .file "new".toByteArray),
    ([.ofString "w", .ofString "public"], .directory),
    ([.ofString "w", .ofString "public", .ofString "a.html"], .file "old".toByteArray)]
  workingDirectory := [.ofString "w"]

/-- Settings that lead to the output directory by a step upwards. -/
def upwardsConfig : Config :=
  { defaultConfig with build.output := .ofString "/w/b/../public" }

-- the earlier page is taken for a document, and it is written over before it is rendered
example :
    defaultRenderer.page .none pageInOutput .empty (.ofString "public/a.html") = .ok "old"
      ∧ ((buildSite (defaultRenderer.pipeline .none) upwardsConfig).runFrom
          { fs := pageInOutput, compilers := defaultRenderer.registry }).2.fs.file?
            [.ofString "w", .ofString "public", .ofString "public", .ofString "a.html"]
        = some "new".toByteArray := by
  decide +kernel

end Folio
