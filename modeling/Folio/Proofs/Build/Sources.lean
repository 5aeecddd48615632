import Folio.Proofs.Build.Site
import Folio.Proofs.Render.Compilers

/-!
# What a build leaves alone

However a build ends, it changes files in two ways only: it takes away what is in the output
directory, if that is to be cleared, and it writes the targets of documents. Nothing keeps either
from being a source: settings may put the output directory anywhere, also over documents, layouts or
partials. If it is apart from them, all sources stay as they are.

Main definitions:
- `Work.Leaves`: work that does not touch the file at a place
- `Config.IsSource`: the files that a site is made from

Main statement: `sources_left_by_buildSiteBy`.
-/

namespace Folio

/-! ## Section 1: Work that leaves a file alone -/

namespace Work

variable {S ε α β : Type} {place : Place}

/-- Whether it succeeds or fails, the work does not touch the file at a place. -/
def Leaves (place : Place) (work : Work S ε α) : Prop :=
  ∀ w, (work.runFrom w).2.fs.file? place = w.fs.file? place

theorem leaves_pure (a : α) : Leaves place (pure a : Work S ε α) := fun _ => rfl

theorem leaves_tell (notice : Notice) : Leaves place (tell notice : Work S ε Unit) := fun _ => rfl

theorem Leaves.bind {first : Work S ε α} {next : α → Work S ε β} (leaves : Leaves place first)
    (leaves' : ∀ a, Leaves place (next a)) : Leaves place (first >>= next) := by
  intro w
  have both : Step.Keeps (fun w' => w'.fs.file? place = w.fs.file? place) (first >>= next) :=
    Step.Keeps.bind (fun s same => (leaves s).trans same) fun a s same => (leaves' a s).trans same
  exact both w rfl

/-- Making directories, as far as that is possible, leaves all files. -/
theorem grows_createDirectories {refusal : IoError → ε} {path : Path} {w w' : Workspace S}
    {result : Except ε Unit}
    (h : (onFiles refusal fun fs => fs.createDirectories path).runFrom w = (result, w')) :
    w.fs.Grows w'.fs := by
  rw [runFrom_onFiles] at h
  cases made : w.fs.createDirectories path with
  | error cause =>
    rw [made] at h
    obtain ⟨-, rfl⟩ := Prod.mk.inj h
    exact .refl _
  | ok fs =>
    rw [made] at h
    obtain ⟨-, rfl⟩ := Prod.mk.inj h
    exact (FileSystem.createDirectories_eq_ok made).1

theorem leaves_createDirectories (refusal : IoError → ε) (path : Path) :
    Leaves place (onFiles refusal (fun fs => fs.createDirectories path) : Work S ε Unit) :=
  fun _ => (grows_createDirectories (Prod.eta _).symm).file? place

/-- Writing a file leaves the others. -/
theorem leaves_writeText (refusal : IoError → ε) {path : Path} (absolute : path.isAbsolute)
    (elsewhere : path.place ≠ place) (text : String) :
    Leaves place (onFiles refusal (fun fs => fs.writeText path text) : Work S ε Unit) := by
  intro w
  rw [runFrom_onFiles]
  cases written : w.fs.writeText path text with
  | error cause => rfl
  | ok fs =>
    obtain ⟨here, located, writes, -⟩ := FileSystem.write_eq_ok written
    obtain rfl := FileSystem.locate_eq_ok absolute located
    rw [writes.file?, if_neg (Ne.symm elsewhere)]

theorem leaves_render {refusal : RenderError → ε} {pipelineAt : FileSystem → Pipeline S}
    {rendering : Pipeline S → Rendering S α} :
    Leaves place (render refusal pipelineAt rendering : Work S ε α) := by
  intro w
  unfold render
  rw [Step.runFrom_get_bind]
  cases rendered : (rendering (pipelineAt w.fs)).run.run w.compilers with
  | mk result compilers => cases result <;> rfl

end Work

/-! ## Section 2: Documents -/

section Documents

variable {S : Type} {pipelineAt : FileSystem → Pipeline S} {source target : Path} {place : Place}

/-- Rendering a document touches no file but its target. -/
theorem leaves_renderTo (absolute : target.isAbsolute) (elsewhere : target.place ≠ place)
    (vars : Variables) : Work.Leaves place (renderTo pipelineAt source target vars) := by
  refine Work.leaves_render.bind fun page => ?_
  have writing := Work.leaves_writeText (S := S) (DocumentError.notWritten target) absolute elsewhere
    page
  cases target.parent? with
  | none => exact writing
  | some parent => exact (Work.leaves_createDirectories _ parent).bind fun _ => writing

theorem leaves_buildDocument (absolute : target.isAbsolute) (elsewhere : target.place ≠ place) :
    Work.Leaves place (buildDocument pipelineAt source target) := by
  intro w
  have rendering : ((renderTo pipelineAt source target .empty).runFrom w).2.fs.file? place
      = w.fs.file? place :=
    leaves_renderTo absolute elsewhere .empty w
  show ((buildDocument pipelineAt source target) w).2.fs.file? place = _
  cases run : (renderTo pipelineAt source target .empty).run.run w with
  | mk result w₁ =>
    rw [Step.runFrom, run] at rendering
    unfold buildDocument
    rw [run]
    cases result <;> exact rendering

/-- Rendering documents one after the other, until one fails, touches no file but their targets. -/
theorem leaves_buildDocuments {targets : List (Path × Path)}
    (absolute : ∀ t ∈ targets, t.2.isAbsolute) (elsewhere : ∀ t ∈ targets, t.2.place ≠ place) :
    Work.Leaves place (buildDocuments pipelineAt targets) := by
  induction targets with
  | nil => exact Work.leaves_pure _
  | cons first rest ih =>
    have inRest {t : Path × Path} (mem : t ∈ rest) : t ∈ first :: rest := List.mem_cons_of_mem _ mem
    exact (leaves_buildDocument (absolute first List.mem_cons_self)
        (elsewhere first List.mem_cons_self)).bind
      fun _ => ih (fun t mem => absolute t (inRest mem)) fun t mem => elsewhere t (inRest mem)

end Documents

/-! ## Section 3: A whole build -/

section Build

variable {S : Type} {output : Path} {clean : Bool}

/-- Preparing the output directory, whether it succeeds or fails, takes away just the files in it,
if it is to be cleared and is a directory. -/
theorem prepareOutput_leaves (absolute : output.isAbsolute) (w : Workspace S)
    {result : Except BuildError Unit} {w' : Workspace S}
    (h : (prepareOutput output clean).runFrom w = (result, w')) :
    (w.fs.IsTree → w'.fs.IsTree) ∧ ∀ place, w'.fs.file? place
      = if clean ∧ w.fs.isDirectory output ∧ output.place <+: place then none
        else w.fs.file? place := by
  unfold prepareOutput at h
  rw [Step.runFrom_get_bind] at h
  dsimp only at h
  split at h
  · rename_i asked
    obtain ⟨isClean, -⟩ := Bool.and_eq_true_iff.mp asked
    have run := Work.runFrom_onFiles (S := S) (BuildError.notCleared output)
      (fun fs => fs.removeDirectories output) w
    cases removed : w.fs.removeDirectories output with
    | error cause =>
      rw [removed] at run
      rw [Step.runFrom_bind_error run] at h
      obtain ⟨-, rfl⟩ := Prod.mk.inj h
      -- what is there is a file, which stays
      have noDirectory := FileSystem.removeDirectories_eq_error removed
      exact ⟨id, fun place => by simp [noDirectory]⟩
    | ok cleared =>
      rw [removed] at run
      rw [Step.runFrom_bind_ok run] at h
      obtain ⟨place, located, directory, rfl⟩ := FileSystem.removeDirectories_eq_ok removed
      obtain rfl := FileSystem.locate_eq_ok absolute located
      have isDirectory := FileSystem.isDirectory_iff.mpr ⟨_, located, directory⟩
      have grows := Work.grows_createDirectories h
      refine ⟨fun tree => grows.tree (tree.prune _), fun q => ?_⟩
      rw [grows.file?]
      dsimp only
      rw [FileSystem.file?_prune]
      simp [isClean, isDirectory]
  · rename_i notAsked
    have grows := Work.grows_createDirectories h
    refine ⟨grows.tree, fun place => ?_⟩
    rw [grows.file?, if_neg]
    rintro ⟨isClean, isDirectory, -⟩
    exact notAsked (by simp [isClean, FileSystem.pathExists_of_isDirectory isDirectory])

variable {pipelineAt : FileSystem → Pipeline S} {config : Config}
  {schedule : List (Path × Path) → List (Path × Path)} {w prepared : Workspace S} {place : Place}

/-- After the output directory has been prepared, or could not be, a build touches only the targets
of the documents that there are then. -/
theorem buildSiteBy_leaves (absolute : config.build.output.isAbsolute)
    (scheduled : ∀ targets, schedule targets ⊆ targets) {result : Except BuildError Unit}
    (preparing : (prepareOutput config.build.output config.build.clean).runFrom w
      = (result, prepared))
    (tree : prepared.fs.IsTree)
    (elsewhere : ∀ document ∈ config.documents prepared.fs,
      (config.build.output.targetIn document).place ≠ place) :
    ((buildSiteBy schedule pipelineAt config).runFrom w).2.fs.file? place
      = prepared.fs.file? place := by
  unfold buildSiteBy
  dsimp only
  cases result with
  | error e => rw [Step.runFrom_bind_error preparing]
  | ok done =>
    rw [Step.runFrom_bind_ok preparing, Step.runFrom_get_bind]
    cases planned : Targets.plan config.build.output (config.documents prepared.fs) with
    | error found => rfl
    | ok targets =>
      obtain ⟨rfl, -⟩ := Targets.plan_eq_ok planned
      have isTarget {t : Path × Path} (mem : t ∈ schedule ((config.documents prepared.fs).map
          fun d => (d, config.build.output.targetIn d))) :
          ∃ d ∈ config.documents prepared.fs, (d, config.build.output.targetIn d) = t :=
        List.mem_map.mp (scheduled _ mem)
      have documents : Work.Leaves place (buildDocuments pipelineAt
          (schedule ((config.documents prepared.fs).map
            fun d => (d, config.build.output.targetIn d)))) := by
        refine leaves_buildDocuments (fun t mem => ?_) fun t mem => ?_
        · obtain ⟨d, isDocument, rfl⟩ := isTarget mem
          exact (Config.isRow_of_mem_documents tree isDocument).isAbsolute_targetIn absolute
        · obtain ⟨d, isDocument, rfl⟩ := isTarget mem
          exact elsewhere d isDocument
      -- between two notices, the documents are rendered
      exact ((Work.leaves_tell _).bind fun _ => documents.bind fun _ =>
        (Work.leaves_tell _).bind fun _ => Work.leaves_pure _) prepared

end Build

/-! ## Section 4: Sources -/

/-- The files that a site is made from: its documents, all that is in the directories of layouts and
partials, the programs of scripts, and the settings. -/
inductive Config.IsSource (config : Config) (fs : FileSystem) (place : Place) : Prop where
  | document {document : Path} (mem : document ∈ config.documents fs)
      (here : (config.build.root.join document).place = place)
  | inDirectory {directory : Path}
      (mem : directory ∈ [config.build.layouts, config.build.includes])
      (below : (config.build.root.join directory).place <+: place)
  | setting {file : Path} (mem : file ∈ config.skippedFiles) (located : fs.locate file = .ok place)

/-- No source is in an output directory that is apart from all of them. -/
theorem Config.IsSource.not_prefix {config : Config} {fs : FileSystem} {place : Place}
    (source : config.IsSource fs place) (tree : fs.IsTree) (resolved : config.IsResolved)
    (apart : config.OutputApart)
    (told : config.build.output.IsPlain
      ∨ ¬ config.build.root.place <+: config.build.output.place)
    (settings : ∀ file ∈ config.skippedFiles, ∀ place, fs.locate file = .ok place →
      ¬ config.build.output.place <+: place) :
    ¬ config.build.output.place <+: place := by
  cases source with
  | document mem here =>
    rw [← here]
    exact Config.not_prefix_of_mem_documents tree resolved.isPlain_root apart told mem
  | inDirectory mem below =>
    intro inside
    rcases List.prefix_or_prefix_of_prefix inside below with above | below
    · exact apart.above _ mem above
    · exact apart.below _ mem below
  | setting mem located => exact settings _ mem _ located

/-- However a build ends, the files that it has changed are those that were in the output directory,
if this was to be cleared and is a directory, and targets of documents that there were after that.
So all sources are left alone by a build into a directory that is apart from them. -/
theorem sources_left_by_buildSiteBy {S : Type} {pipelineAt : FileSystem → Pipeline S}
    {loaded : FileSystem} {commandLine : CommandLine} {config : Config}
    {schedule : List (Path × Path) → List (Path × Path)} {w : Workspace S}
    (tree₀ : loaded.IsTree) (load : Config.load loaded commandLine = .ok config)
    (tree : w.fs.IsTree) (scheduled : ∀ targets, schedule targets ⊆ targets) :
    let prepared := ((prepareOutput config.build.output config.build.clean).runFrom w).2.fs
    let after := ((buildSiteBy schedule pipelineAt config).runFrom w).2.fs
    (∀ place, (∀ document ∈ config.documents prepared,
        (config.build.output.targetIn document).place ≠ place) →
      after.file? place =
        if config.build.clean ∧ w.fs.isDirectory config.build.output
          ∧ config.build.output.place <+: place then none
        else w.fs.file? place) ∧
    (config.OutputApart →
      (config.build.output.IsPlain ∨ ¬ config.build.root.place <+: config.build.output.place) →
      (∀ file ∈ config.skippedFiles, ∀ place, w.fs.locate file = .ok place →
        ¬ config.build.output.place <+: place) →
      ∀ place, config.IsSource w.fs place → after.file? place = w.fs.file? place) := by
  intro prepared after
  have resolved := Config.load_isResolved tree₀ load
  obtain ⟨trees, files⟩ := prepareOutput_leaves resolved.output w (Prod.eta _).symm
  have left : ∀ place, (∀ document ∈ config.documents prepared,
      (config.build.output.targetIn document).place ≠ place) → after.file? place
        = if config.build.clean ∧ w.fs.isDirectory config.build.output
          ∧ config.build.output.place <+: place then none
        else w.fs.file? place := fun place elsewhere =>
    (buildSiteBy_leaves resolved.output scheduled (Prod.eta _).symm (trees tree)
      elsewhere).trans (files place)
  refine ⟨left, fun apart told settings place source => ?_⟩
  have outside := source.not_prefix tree resolved apart told settings
  -- a target is in the output directory
  rw [left place, if_neg fun cleared => outside cleared.2.2]
  rintro document mem rfl
  rw [(Config.place_targetIn_of_isRow resolved.output
    (Config.isRow_of_mem_documents (trees tree) mem)).1] at outside
  exact outside (List.prefix_append ..)

/-- A build next to a page of an earlier one. -/
theorem sources_left_pageInLayout :
    let w : Workspace (Registry Unit) :=
      { fs := pageInLayout, compilers := defaultRenderer.registry }
    let after := ((buildSiteBy List.reverse (defaultRenderer.pipeline .none) defaultConfig).runFrom
      w).2.fs
    (∃ place, defaultConfig.IsSource pageInLayout place ∧ (pageInLayout.file? place).isSome) ∧
      ∀ place, defaultConfig.IsSource pageInLayout place →
        after.file? place = pageInLayout.file? place := by
  intro w after
  have load : Config.load pageInLayout
      { config := .ofString "quire.toml", command := .build .none false } = .ok defaultConfig := by
    rfl
  have tree : pageInLayout.IsTree := by decide +kernel
  have settings : ∀ file ∈ defaultConfig.skippedFiles, ∀ place,
      pageInLayout.locate file = .ok place → ¬ defaultConfig.build.output.place <+: place := by
    intro file mem place located
    obtain rfl : file = defaultConfig.configPath := List.mem_singleton.mp mem
    obtain rfl := FileSystem.locate_eq_ok (by decide) located
    decide
  have listed : Path.ofString "a.txt" ∈ defaultConfig.documents pageInLayout := by decide +kernel
  have left : ∀ place, defaultConfig.IsSource pageInLayout place →
      after.file? place = pageInLayout.file? place :=
    (sources_left_by_buildSiteBy (w := w) tree load tree
      fun targets => (List.reverse_perm targets).subset).2
        ⟨by decide, by decide, by decide⟩ (.inl ⟨by decide, by decide⟩) settings
  exact ⟨⟨[.ofString "w", .ofString "a.txt"], .document listed (by decide), by decide +kernel⟩,
    left⟩

/-- A document and a partial. -/
def pageWithPartial : FileSystem where
  entries := [([.ofString "w"], .directory),
    ([.ofString "w", .ofString "_includes"], .directory),
    ([.ofString "w", .ofString "_includes", .ofString "part.html"], .file "y".toByteArray),
    ([.ofString "w", .ofString "index.html"], .file "---\n---\nx".toByteArray)]
  workingDirectory := [.ofString "w"]

/-- Settings that put pages where the documents are. -/
def inPlaceConfig : Config :=
  { defaultConfig with build.output := .ofString "/w" }

/-- Settings that clear the directory of partials and put pages there. -/
def overPartialsConfig : Config :=
  { defaultConfig with
    build := { defaultConfig.build with output := .ofString "/w/_includes", clean := true } }

/-- A build writes its page over a document, and another one takes away a partial. -/
theorem sources_lost_by_buildSite :
    let after (config : Config) : FileSystem :=
      ((buildSite (defaultRenderer.pipeline .none) config).runFrom
        { fs := pageWithPartial, compilers := defaultRenderer.registry }).2.fs
    let commandLine (output : String) (clean : Bool) : CommandLine :=
      { config := .ofString "quire.toml", command := .build (some (.ofString output)) clean }
    let document : Place := [.ofString "w", .ofString "index.html"]
    let part : Place := [.ofString "w", .ofString "_includes", .ofString "part.html"]
    pageWithPartial.IsTree ∧
    (Config.load pageWithPartial (commandLine "." false) = .ok inPlaceConfig ∧
      inPlaceConfig.IsSource pageWithPartial document ∧
      pageWithPartial.file? document = some "---\n---\nx".toByteArray ∧
      (after inPlaceConfig).file? document = some "x".toByteArray) ∧
    (Config.load pageWithPartial (commandLine "_includes" true) = .ok overPartialsConfig ∧
      overPartialsConfig.IsSource pageWithPartial part ∧
      pageWithPartial.file? part = some "y".toByteArray ∧
      (after overPartialsConfig).file? part = none) := by
  intro after commandLine document part
  have listed : Path.ofString "index.html" ∈ inPlaceConfig.documents pageWithPartial := by
    decide +kernel
  have includes : Path.ofString "_includes"
      ∈ [overPartialsConfig.build.layouts, overPartialsConfig.build.includes] := by
    decide
  exact ⟨by decide +kernel,
    ⟨rfl, .document listed (by decide), by decide +kernel, by decide +kernel⟩,
    ⟨rfl, .inDirectory includes (by decide), by decide +kernel, by decide +kernel⟩⟩

end Folio
