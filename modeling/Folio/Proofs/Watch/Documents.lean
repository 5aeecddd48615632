import Folio.Proofs.Build.Sources
import Folio.Proofs.Watch.Plan

/-!
# Documents as changed files

A build walks down from the root and compares every directory on its way, and every file, with those
that hold no documents. A watch session compares the beginning of a path with the same directories,
one after the other. The two agree on what a document is: a directory that a document is in was
passed on the way to it, or the root itself is in it. The walk does not compare the root, so only in
the second case a document counts as something else, and then all of them do.

Main definitions:
- `Config.documentCategory`: what all documents count as
- `Config.RootApart`: the root is in no directory that holds no documents

Main statements:
- `Config.categoryOf_document`: a document counts as what the root makes of it
- `Config.rootApart_iff`: where the root is, in terms of the settings
- `Config.categorize_document`: what the change of a document asks for
-/

namespace Folio

namespace Config

variable {config : Config} {fs : FileSystem} {document : Path}

/-! ## Section 1: Directories that documents are in -/

theorem isAbsolute_of_mem_skippedDirectories (resolved : config.IsResolved) {directory : Path}
    (skipped : directory ∈ config.skippedDirectories) : directory.isAbsolute := by
  have root := resolved.isPlain_root.absolute
  simp only [skippedDirectories, List.mem_cons, List.not_mem_nil, or_false] at skipped
  rcases skipped with rfl | rfl | rfl
  · exact Path.isAbsolute_join root _
  · exact Path.isAbsolute_join root _
  · exact resolved.output

theorem startsWith_root_iff (resolved : config.IsResolved) {directory : Path}
    (absolute : directory.isAbsolute) : config.build.root.startsWith directory
      ↔ directory.IsPlain ∧ directory.place <+: config.build.root.place := by
  obtain ⟨valid, root⟩ := resolved.root_eq
  have spelled := Path.startsWith_ofRootNames valid absolute
  rwa [← root] at spelled

/-- The path of a document is spelled by its names below those of the root. -/
theorem exists_join_document (tree : fs.IsTree) (resolved : config.IsResolved)
    (h : document ∈ config.documents fs) : ∃ place : Place, (∀ name ∈ place, name.IsSegment)
      ∧ config.build.root.place <+: place ∧ config.build.root.join document = .ofRootNames place := by
  obtain ⟨names, nonempty, valid, rfl, -⟩ := mem_documents tree h
  obtain ⟨validRoot, root⟩ := resolved.root_eq
  have spelled := Path.join_ofRootNames validRoot nonempty valid
  rw [← root] at spelled
  refine ⟨config.build.root.place ++ names, ?_, List.prefix_append .., spelled⟩
  simpa [or_imp, forall_and] using ⟨validRoot, valid⟩

/-- A document is in a skipped directory just if the root is. -/
theorem startsWith_document (tree : fs.IsTree) (resolved : config.IsResolved)
    (h : document ∈ config.documents fs) {directory : Path}
    (skipped : directory ∈ config.skippedDirectories) :
    (config.build.root.join document).startsWith directory
      = config.build.root.startsWith directory := by
  have absolute := isAbsolute_of_mem_skippedDirectories resolved skipped
  obtain ⟨place, valid, below, spelled⟩ := exists_join_document tree resolved h
  rw [Bool.eq_iff_iff, startsWith_root_iff resolved absolute, spelled,
    Path.startsWith_ofRootNames valid absolute]
  refine and_congr_right fun plain => ⟨fun inside => ?_, fun inside => inside.trans below⟩
  -- a directory below the root was compared on the way to the document
  refine prefix_root_of_mem_documents tree resolved.isPlain_root h skipped plain ?_
  rwa [spelled, Path.place_ofRootNames valid]

theorem startsWith_root_document (tree : fs.IsTree) (resolved : config.IsResolved)
    (h : document ∈ config.documents fs) :
    (config.build.root.join document).startsWith config.build.root := by
  have root := resolved.isPlain_root
  obtain ⟨place, valid, below, spelled⟩ := exists_join_document tree resolved h
  rw [spelled, Path.startsWith_ofRootNames valid root.absolute]
  exact ⟨root, below⟩

/-! ## Section 2: What documents count as -/

/-- What all documents count as: content, unless the root is in a directory that holds none. -/
def documentCategory (config : Config) : Category :=
  let root := config.build.root
  if root.startsWith config.build.output then .unknown
  else if root.startsWith (root.join config.build.layouts) then .layout
  else if root.startsWith (root.join config.build.includes) then .includable
  else .content

/-- A document counts as what the root makes of it. -/
theorem categoryOf_document (tree : fs.IsTree) (resolved : config.IsResolved)
    (h : document ∈ config.documents fs) :
    config.categoryOf (config.build.root.join document) = config.documentCategory := by
  have inside {directory : Path} (skipped : directory ∈ config.skippedDirectories) :=
    startsWith_document tree resolved h skipped
  -- neither the settings nor a program are taken for a document
  obtain ⟨place, names, content, -, -, -, -, accepted, rfl⟩ := (mem_documents_iff tree).mp h
  obtain ⟨notProgram, noSettings, -⟩ := isDocument_iff.mp accepted
  have noProgram : ¬ config.compilers.scripts.any fun script =>
      script.program.equiv (config.build.root.join (Path.ofNames names)) := by
    rw [List.any_eq_true]
    rintro ⟨script, mem, same⟩
    exact notProgram script mem (Path.equiv_symm same)
  unfold categoryOf documentCategory
  dsimp only
  rw [if_neg noSettings, if_neg noProgram, inside (by simp [skippedDirectories]),
    inside (by simp [skippedDirectories]), inside (by simp [skippedDirectories]),
    if_pos (startsWith_root_document tree resolved h)]

/-- The root is in no directory that holds no documents. -/
def RootApart (config : Config) : Prop :=
  ∀ directory ∈ config.skippedDirectories, ¬ config.build.root.startsWith directory

instance (config : Config) : Decidable config.RootApart :=
  inferInstanceAs (Decidable (∀ directory ∈ config.skippedDirectories,
    ¬ config.build.root.startsWith directory))

theorem documentCategory_eq_content_iff : config.documentCategory = .content ↔ config.RootApart := by
  simp only [documentCategory, RootApart, skippedDirectories, List.forall_mem_cons]
  split
  · simp_all
  · split
    · simp_all
    · split <;> simp_all

/-- A directory that is seen from the root contains it only if it is the root, as it is without a
name. -/
theorem startsWith_join_iff (resolved : config.IsResolved) {directory : Path}
    (mem : directory ∈ [config.build.layouts, config.build.includes]) :
    config.build.root.startsWith (config.build.root.join directory) ↔ directory.names = [] := by
  have root := resolved.isPlain_root
  obtain ⟨relative, downwards⟩ := Path.staysBelow_iff (resolved.staysBelow mem)
  have plain := root.join relative downwards
  rw [startsWith_root_iff resolved plain.absolute, Path.place_join root.absolute relative downwards]
  constructor
  · rintro ⟨-, inside⟩
    have length := inside.length_le
    rw [List.length_append] at length
    exact List.length_eq_zero_iff.mp (by omega)
  · intro nameless
    exact ⟨plain, by simp [nameless]⟩

/-- The root is in no directory without documents just if it is not in the output directory and the
directories of layouts and partials have names. -/
theorem rootApart_iff (resolved : config.IsResolved) : config.RootApart ↔
    ¬ config.build.root.startsWith config.build.output
      ∧ config.build.layouts.names ≠ [] ∧ config.build.includes.names ≠ [] := by
  have layouts : config.build.root.startsWith (config.build.root.join config.build.layouts)
      ↔ config.build.layouts.names = [] := startsWith_join_iff resolved (by simp)
  have includes : config.build.root.startsWith (config.build.root.join config.build.includes)
      ↔ config.build.includes.names = [] := startsWith_join_iff resolved (by simp)
  unfold RootApart skippedDirectories
  rw [List.forall_mem_cons, List.forall_mem_cons, List.forall_mem_singleton, layouts, includes]
  tauto

/-! ## Section 3: Changes of documents -/

/-- The path of a document is its absolute path, whether its file is still there or not. -/
theorem absolute_document (tree : fs.IsTree) (resolved : config.IsResolved)
    (h : document ∈ config.documents fs) (later : FileSystem) :
    later.absolute (config.build.root.join document) = config.build.root.join document := by
  obtain ⟨place, valid, -, spelled⟩ := exists_join_document tree resolved h
  rw [spelled, later.absolute_ofRootNames valid]

/-- Settings that have been loaded, documents that have been found with them, and a batch of changes
that names one of the documents, in whatever spelling and whatever has become of the file: the path
that it is put down by is the one below the root, and it counts as content just if the root is in no
directory without documents. Then the batch asks for that document, between those that the other
changes ask for, and for nothing else. -/
theorem categorize_document {loaded fs later : FileSystem} (loadedTree : loaded.IsTree)
    {commandLine : CommandLine} {config : Config}
    (accepted : load loaded commandLine = .ok config) (tree : fs.IsTree) {document : Path}
    (listed : document ∈ config.documents fs) {path : Path}
    (named : later.absolute path = later.absolute (config.build.root.join document)) :
    later.absolute path = config.build.root.join document
      ∧ (config.categorize later path = .content ↔ config.RootApart)
      ∧ (config.RootApart →
          Plan.ofPaths later config [path] = { changedContent := [config.build.root.join document] }
          ∧ ∀ before after, Plan.ofPaths later config (before ++ path :: after) =
              { Plan.ofPaths later config (before ++ after) with
                changedContent := (Plan.ofPaths later config before).changedContent
                  ++ config.build.root.join document
                    :: (Plan.ofPaths later config after).changedContent }) := by
  have resolved := load_isResolved loadedTree accepted
  have spelled : later.absolute path = config.build.root.join document := by
    rw [named, absolute_document tree resolved listed]
  have category : config.categorize later path = .content ↔ config.RootApart := by
    rw [categorize, spelled, categoryOf_document tree resolved listed,
      documentCategory_eq_content_iff]
  refine ⟨spelled, category, fun apart => ?_⟩
  have content := category.mpr apart
  constructor
  · rw [Plan.ofPaths_cons_of_content content, spelled]
    rfl
  · intro before after
    rw [Plan.ofPaths_append, Plan.ofPaths_append, Plan.ofPaths_cons_of_content content, spelled]

/-- A changed document next to a page of an earlier build, named as seen from the working directory. -/
theorem categorize_pageInLayout :
    let document := Path.ofString "b.txt"
    let path := Path.ofString "./b.txt"
    pageInLayout.IsTree
      ∧ load pageInLayout { config := .ofString "quire.toml", command := .build .none false }
        = .ok defaultConfig
      ∧ document ∈ defaultConfig.documents pageInLayout
      ∧ pageInLayout.absolute path
        = pageInLayout.absolute (defaultConfig.build.root.join document)
      ∧ defaultConfig.RootApart
      ∧ defaultConfig.categorize pageInLayout path = .content
      ∧ Plan.ofPaths pageInLayout defaultConfig [path]
        = { changedContent := [.ofString "/w/b.txt"] } := by
  have tree : pageInLayout.IsTree := by decide +kernel
  have accepted : load pageInLayout
      { config := .ofString "quire.toml", command := .build .none false } = .ok defaultConfig := by
    rfl
  have listed : Path.ofString "b.txt" ∈ defaultConfig.documents pageInLayout := by decide +kernel
  have named : pageInLayout.absolute (.ofString "./b.txt")
      = pageInLayout.absolute (defaultConfig.build.root.join (.ofString "b.txt")) := by
    decide +kernel
  have apart : defaultConfig.RootApart := by decide +kernel
  obtain ⟨-, category, changed⟩ := categorize_document tree accepted tree listed named
  exact ⟨tree, accepted, listed, named, apart, category.mpr apart, (changed apart).1⟩

/-! ## Section 4: The root among the directories without documents -/

/-- A document is found, counts as `category`, and asks for `plan` when it changes. -/
def CountsAs (config : Config) (fs : FileSystem) (document : Path) (category : Category)
    (plan : Plan) : Prop :=
  document ∈ config.documents fs
    ∧ config.categorize fs (config.build.root.join document) = category
    ∧ Plan.ofPaths fs config [config.build.root.join document] = plan

instance (config : Config) (fs : FileSystem) (document : Path) (category : Category) (plan : Plan) :
    Decidable (config.CountsAs fs document category plan) :=
  inferInstanceAs (Decidable (_ ∧ _ ∧ _))

/-- A project whose layouts are beside its documents. -/
def layoutsInRoot : FileSystem where
  entries := [([.ofString "w"], .directory),
    ([.ofString "w", .ofString "a.md"], .file "x".toByteArray),
    ([.ofString "w", .ofString "quire.toml"], .file "[build]\nlayouts = \".\"\n".toByteArray)]
  workingDirectory := [.ofString "w"]

/-- In a root that is the directory of layouts, a document counts as a layout; in one that is the
output directory as well, it counts as nothing. -/
theorem exists_document_not_content :
    let document := Path.ofString "a.md"
    let commandLine (output : Option Path) : CommandLine :=
      { config := .ofString "quire.toml", command := .build output false }
    layoutsInRoot.IsTree
      ∧ (∃ config, load layoutsInRoot (commandLine none) = .ok config
        ∧ config.CountsAs layoutsInRoot document .layout { renderAll := true })
      ∧ ∃ config, load layoutsInRoot (commandLine (some (.ofString "."))) = .ok config
        ∧ config.CountsAs layoutsInRoot document .unknown {} := by
  refine ⟨by decide +kernel, exists_ok_of_any ?_, exists_ok_of_any ?_⟩
  · decide +kernel
  · decide +kernel

end Config

end Folio
