import Folio.Proofs.Config.Load
import Folio.Watch.Plan

/-!
# What a batch of changes asks for

A plan has what each changed file asks for, in any order. Outside the output directory, a changed
file below the directories of layouts and partials asks for every document, and any other file below
the root asks at least for the documents that it is the file of.

Main statements:
- `Path.startsWith_ofRootNames`: what is below an absolute path
- `Config.affectsAll_categoryOf`, `Config.affectsAll_or_content`: what a place means
- `Plan.ofPaths_eq`: what a plan is
- `Plan.renderAll_of_layout`, `Plan.renderAll_or_changed`: no change is lost
-/

namespace Folio

/-! ## Section 1: Places below a path -/

/-- A place is below an absolute path that is spelled without steps upwards, if it is below where the
path leads. -/
theorem Path.startsWith_ofRootNames {names : List Name} (valid : ∀ name ∈ names, name.IsSegment)
    {q : Path} (absolute : q.isAbsolute) :
    (ofRootNames names).startsWith q ↔ q.IsPlain ∧ q.place <+: names := by
  have spelled : (ofRootNames names).startsWith q ↔ q.steps <+: names.map .normal := by
    rw [startsWith, components_eq_root_steps absolute,
      components_eq_root_steps (isAbsolute_ofRootNames names), steps_ofRootNames valid,
      List.isPrefixOf_iff_prefix, List.prefix_cons_inj]
  rw [spelled]
  constructor
  · intro below
    have plain : q.IsPlain := by
      refine ⟨absolute, fun upwards => ?_⟩
      have parent := below.subset upwards
      simp at parent
    rw [plain.steps_eq, List.prefix_map_iff_of_injective fun _ _ => Component.normal.inj] at below
    exact ⟨plain, below⟩
  · rintro ⟨plain, below⟩
    rw [plain.steps_eq]
    exact below.map _

/-! ## Section 2: What a place means -/

namespace Config

variable {config : Config} {place : Place}

/-- Paths with the same components mean the same. -/
theorem categoryOf_congr (config : Config) {p q : Path} (same : p.equiv q) :
    config.categoryOf p = config.categoryOf q := by
  unfold categoryOf Path.equiv Path.startsWith
  rw [Path.equiv_iff.mp same]

variable (resolved : config.IsResolved) (valid : ∀ name ∈ place, name.IsSegment)
  (outside : ¬ config.build.output.place <+: place)

include resolved valid outside

/-- Nothing outside the output directory counts as something in it. -/
theorem not_startsWith_output : ¬ (Path.ofRootNames place).startsWith config.build.output := by
  rw [Path.startsWith_ofRootNames valid resolved.output]
  exact fun below => outside below.2

/-- What is below the directory of layouts or that of partials can show in every document. -/
theorem affectsAll_categoryOf {directory : Path}
    (mem : directory ∈ [config.build.layouts, config.build.includes])
    (inside : (config.build.root.join directory).place <+: place) :
    (config.categoryOf (.ofRootNames place)).affectsAll := by
  have below : (Path.ofRootNames place).startsWith (config.build.root.join directory) := by
    have stays : directory.staysBelow := resolved.staysBelow mem
    obtain ⟨relative, downwards⟩ := Path.staysBelow_iff stays
    have plain := resolved.isPlain_root.join relative downwards
    exact (Path.startsWith_ofRootNames valid plain.absolute).mpr ⟨plain, inside⟩
  unfold categoryOf
  dsimp only
  rw [if_neg (not_startsWith_output resolved valid outside)]
  split
  · rfl
  split
  · rfl
  split
  · rfl
  · -- below the partials, since not below the layouts
    rename_i notLayout
    simp only [List.mem_cons, List.not_mem_nil, or_false] at mem
    rcases mem with rfl | rfl
    · exact absurd below notLayout
    · rw [if_pos below]
      rfl

/-- What is below the root is content, if it does not show in every document. -/
theorem affectsAll_or_content (inside : config.build.root.place <+: place) :
    (config.categoryOf (.ofRootNames place)).affectsAll
      ∨ config.categoryOf (.ofRootNames place) = .content := by
  have below : (Path.ofRootNames place).startsWith config.build.root :=
    (Path.startsWith_ofRootNames valid resolved.isPlain_root.absolute).mpr
      ⟨resolved.isPlain_root, inside⟩
  unfold categoryOf
  dsimp only
  rw [if_neg (not_startsWith_output resolved valid outside), if_pos below]
  split
  · exact .inl rfl
  split
  · exact .inl rfl
  split
  · exact .inl rfl
  split
  · exact .inl rfl
  · exact .inr rfl

end Config

/-! ## Section 3: Plans -/

namespace Plan

variable {fs : FileSystem} {config : Config} {paths : List Path} {place : Place}

theorem foldl_note (plan : Plan) (paths : List Path) :
    paths.foldl (note fs config) plan =
      { reloadConfig := plan.reloadConfig || paths.any (config.categorize fs · = .settings)
        reloadScripts := plan.reloadScripts || paths.any (config.categorize fs · = .script)
        renderAll := plan.renderAll || paths.any fun path => (config.categorize fs path).affectsAll
        changedContent := plan.changedContent
          ++ (paths.filter (config.categorize fs · = .content)).map fs.absolute } := by
  -- on the changes, after any plan for those before
  induction paths generalizing plan with
  | nil => simp
  | cons path rest ih =>
    rw [List.foldl_cons, ih]
    cases category : config.categorize fs path <;> simp [note, category, Category.affectsAll]

/-- What a plan is, whatever the order of the changes. -/
theorem ofPaths_eq (fs : FileSystem) (config : Config) (paths : List Path) :
    ofPaths fs config paths =
      { reloadConfig := paths.any (config.categorize fs · = .settings)
        reloadScripts := paths.any (config.categorize fs · = .script)
        renderAll := paths.any fun path => (config.categorize fs path).affectsAll
        changedContent := (paths.filter (config.categorize fs · = .content)).map fs.absolute } := by
  rw [ofPaths, foldl_note]
  simp

/-- Two batches, one after the other, ask for what each of them asks for. -/
theorem ofPaths_append (fs : FileSystem) (config : Config) (before after : List Path) :
    ofPaths fs config (before ++ after) =
      { reloadConfig :=
          (ofPaths fs config before).reloadConfig || (ofPaths fs config after).reloadConfig
        reloadScripts :=
          (ofPaths fs config before).reloadScripts || (ofPaths fs config after).reloadScripts
        renderAll := (ofPaths fs config before).renderAll || (ofPaths fs config after).renderAll
        changedContent := (ofPaths fs config before).changedContent
          ++ (ofPaths fs config after).changedContent } := by
  simp [ofPaths_eq]

theorem ofPaths_cons_of_content {path : Path} (content : config.categorize fs path = .content)
    (after : List Path) : ofPaths fs config (path :: after) =
      { ofPaths fs config after with
        changedContent := fs.absolute path :: (ofPaths fs config after).changedContent } := by
  simp [ofPaths_eq, content, Category.affectsAll]

theorem renderAll_of_affectsAll {path : Path} (mem : path ∈ paths)
    (h : (config.categorize fs path).affectsAll) : (ofPaths fs config paths).renderAll := by
  rw [ofPaths_eq]
  exact List.any_eq_true.mpr ⟨path, mem, h⟩

/-- What is read anew can show in every document. -/
theorem renderAll_of_reload
    (h : (ofPaths fs config paths).reloadConfig ∨ (ofPaths fs config paths).reloadScripts) :
    (ofPaths fs config paths).renderAll := by
  rw [ofPaths_eq] at h
  simp only [List.any_eq_true, decide_eq_true_eq] at h
  rcases h with ⟨path, mem, category⟩ | ⟨path, mem, category⟩
  · exact renderAll_of_affectsAll mem (by rw [category]; rfl)
  · exact renderAll_of_affectsAll mem (by rw [category]; rfl)

variable (resolved : config.IsResolved) (valid : ∀ name ∈ place, name.IsSegment)
  (outside : ¬ config.build.output.place <+: place)
  (listed : ∃ path ∈ paths, (fs.absolute path).equiv (.ofRootNames place))

include resolved valid outside listed

/-- A changed file below the directories of layouts and partials asks for all documents. -/
theorem renderAll_of_layout {directory : Path}
    (mem : directory ∈ [config.build.layouts, config.build.includes])
    (inside : (config.build.root.join directory).place <+: place) :
    (ofPaths fs config paths).renderAll := by
  obtain ⟨path, inPaths, same⟩ := listed
  refine renderAll_of_affectsAll inPaths ?_
  rw [Config.categorize, config.categoryOf_congr same]
  exact Config.affectsAll_categoryOf resolved valid outside mem inside

/-- A changed file below the root asks for all documents, or for those that it is the file of. -/
theorem renderAll_or_changed (inside : config.build.root.place <+: place) :
    (ofPaths fs config paths).renderAll
      ∨ ∃ changed ∈ (ofPaths fs config paths).changedContent,
          changed.equiv (.ofRootNames place) := by
  obtain ⟨path, inPaths, same⟩ := listed
  have category : config.categorize fs path = config.categoryOf (.ofRootNames place) := by
    rw [Config.categorize, config.categoryOf_congr same]
  rcases Config.affectsAll_or_content resolved valid outside inside with all | content
  · exact .inl (renderAll_of_affectsAll inPaths (category ▸ all))
  · right
    rw [ofPaths_eq]
    refine ⟨fs.absolute path, List.mem_map_of_mem ?_, same⟩
    exact List.mem_filter.mpr ⟨inPaths, by simp [category, content]⟩

end Plan

end Folio
