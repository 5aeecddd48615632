import Folio.Proofs.FileSystem.Tree
import Folio.Proofs.Render.Dependence
import Folio.Proofs.Render.Names
import Folio.Renderer

/-!
# What a renderer reads

Layouts and partials are looked up by names that documents choose. Files in which everything that can
be looked up is alike render a document alike. As long as extensions have no separators in them,
whatever name is chosen, the file is below the directory of layouts or partials, or beside it with
the name of the directory and an extension, which is what a blank name stands for. So two trees with
the same files there render a document alike that is the same in both.

Main definitions:
- `Renderer.IsPlaced`: the directories of a renderer are told by their spelling
- `Renderer.LooksUp`: the paths that layouts and partials are looked up by
- `Renderer.Reads`: the places of layouts and partials

Main statements:
- `Renderer.agrees`: files with the same layouts and partials
- `Renderer.renderPath_congr_of_alike`, `Renderer.renderPath_congr`: the pages of a document in both
-/

namespace Folio

/-- An engine depends on what its partials are loaded as. -/
theorem Template.engine_congr {partials partials' : Partials}
    (same : ∀ name, partials.load name = partials'.load name) :
    engine (some partials) = engine (some partials') := by
  have load : partials.load = partials'.load := funext same
  funext source site scope
  unfold engine
  dsimp only
  rw [load]

/-- Files in which a path leads to the same text, or in both to no file. -/
structure FileSystem.Alike (fs fs' : FileSystem) (path : Path) : Prop where
  isFile : fs.isFile path = fs'.isFile path
  text : fs.isFile path → fs.readText path = fs'.readText path

theorem FileSystem.Alike.resources {fs fs' : FileSystem} {root file : Path}
    (alike : fs.Alike fs' (root.join file)) :
    (Resources.disk fs root).Alike (Resources.disk fs' root) file :=
  ⟨alike.isFile, alike.text⟩

/-- A partial depends on the files that its name can stand for. -/
theorem Template.Partials.load_congr {resources resources' : Resources} {directory : Path}
    {extensions : List String} {name : String}
    (alike : ∀ file ∈ (logicalPath directory name).candidates extensions,
      resources.Alike resources' file) :
    load ⟨resources, directory, extensions⟩ name
      = load ⟨resources', directory, extensions⟩ name := by
  obtain ⟨resolve, text⟩ := Resources.resolve_congr_of_alike alike
  unfold load
  dsimp only
  rw [← resolve]
  split
  · rfl
  · rename_i file resolved
    rw [text file resolved]

namespace Renderer

variable {R : Type} {renderer : Renderer R} {fs fs' : FileSystem}

/-! ## Section 1: Where layouts and partials are -/

/-- The root of a renderer is a plain path, and its layouts and partials are seen from there. -/
structure IsPlaced (renderer : Renderer R) : Prop where
  root : renderer.root.IsPlain
  layouts : renderer.layouts.isAbsolute = false
  includes : renderer.includes.isAbsolute = false

/-- The directories of layouts and of partials, as seen from the root. -/
def directories (renderer : Renderer R) : List Path := [renderer.layouts, renderer.includes]

theorem layouts_mem_directories (renderer : Renderer R) :
    renderer.layouts ∈ renderer.directories := by
  simp [directories]

theorem IsPlaced.directory (placed : renderer.IsPlaced) {directory : Path}
    (h : directory ∈ renderer.directories) : directory.isAbsolute = false := by
  simp only [directories, List.mem_cons, List.not_mem_nil, or_false] at h
  rcases h with rfl | rfl
  · exact placed.layouts
  · exact placed.includes

/-- The paths that names of layouts and partials are looked up by. -/
def LooksUp (renderer : Renderer R) (path : Path) : Prop :=
  ∃ directory ∈ renderer.directories, ∃ name,
    ∃ file ∈ (Template.Partials.logicalPath directory name).candidates renderer.extensions,
      renderer.root.join file = path

/-- The places of the files that names of layouts and partials can stand for: those below the
directories, and those beside them that a blank name stands for. -/
def Reads (renderer : Renderer R) (place : Place) : Prop :=
  ∃ directory ∈ renderer.directories, (renderer.root.join directory).place <+: place
    ∨ ∃ file ∈ directory.candidates renderer.extensions, (renderer.root.join file).place = place

/-- What a name can stand for is below the directory, or what the directory itself can stand for. -/
theorem prefix_or_mem_candidates {root directory file : Path} (absolute : root.isAbsolute)
    (relative : directory.isAbsolute = false) {name : String} {extensions : List String}
    (unbroken : ∀ e ∈ extensions, '/' ∉ e.toList)
    (h : file ∈ (Template.Partials.logicalPath directory name).candidates extensions) :
    (root.join directory).place <+: (root.join file).place
      ∨ file ∈ directory.candidates extensions := by
  obtain ⟨downwards, -, ⟨-, beside⟩ | ⟨-, inner, -, valid, below⟩⟩ :=
    Path.mem_candidates_logicalPath unbroken h
  · exact .inr beside
  · left
    rw [below, Path.place_join_ofNames absolute valid, Path.place_join absolute relative downwards,
      ← List.append_assoc]
    exact List.prefix_append _ _

theorem reads_of_mem_candidates (placed : renderer.IsPlaced)
    (unbroken : ∀ e ∈ renderer.extensions, '/' ∉ e.toList) {directory file : Path}
    (mem : directory ∈ renderer.directories) {name : String}
    (h : file ∈ (Template.Partials.logicalPath directory name).candidates renderer.extensions) :
    (renderer.root.join file).IsPlain ∧ renderer.Reads (renderer.root.join file).place := by
  have inside :=
    prefix_or_mem_candidates placed.root.absolute (placed.directory mem) unbroken h
  obtain ⟨names, -, segments, rfl⟩ := Path.exists_names_of_mem_candidates unbroken h
  exact ⟨(Path.join_ofNames placed.root segments).1, directory, mem,
    inside.imp_right fun candidate => ⟨_, candidate, rfl⟩⟩

/-- Below a directory that is apart from those of layouts and partials, nothing is read. -/
theorem not_reads_below (absolute : renderer.root.isAbsolute)
    (relative : ∀ directory ∈ renderer.directories, directory.isAbsolute = false)
    {place inner : Place}
    (above : ∀ directory ∈ renderer.directories,
      ¬ place <+: (renderer.root.join directory).place)
    (below : ∀ directory ∈ renderer.directories,
      ¬ (renderer.root.join directory).place <+: place)
    (unbroken : ∀ e ∈ renderer.extensions, '/' ∉ e.toList) (nonempty : inner ≠ []) :
    ¬ renderer.Reads (place ++ inner) := by
  rintro ⟨directory, mem, inside | ⟨file, candidate, here⟩⟩
  · rcases List.prefix_or_prefix_of_prefix inside (List.prefix_append place inner) with h | h
    · exact below directory mem h
    · exact above directory mem h
  · obtain ⟨init, last, e, isExtension, downwards, names, rfl⟩ := Path.mem_candidates candidate
    have valid := Path.isSegment_of_mem_candidate names (unbroken e isExtension)
    rw [Path.place_join_ofNames absolute valid] at here
    obtain empty | ⟨innerInit, innerLast, rfl⟩ := List.eq_nil_or_concat' inner
    · exact nonempty empty
    · -- what holds the candidate holds the directory
      rw [← List.append_assoc, ← List.append_assoc] at here
      obtain ⟨same, -⟩ := List.append_inj' here rfl
      refine above directory mem ?_
      rw [Path.place_join absolute (relative directory mem) downwards, names, ← List.append_assoc,
        same]
      exact ⟨innerInit ++ [last], by simp⟩

/-! ## Section 2: Files that agree -/

section

variable (language : ScriptLanguage R) (alike : ∀ path, renderer.LooksUp path → fs.Alike fs' path)

include alike

theorem load_congr (name : String) :
    Template.Partials.load
        ⟨Resources.disk fs renderer.root, renderer.includes, renderer.extensions⟩ name
      = Template.Partials.load
        ⟨Resources.disk fs' renderer.root, renderer.includes, renderer.extensions⟩ name := by
  have mem : renderer.includes ∈ renderer.directories := by simp [directories]
  apply Template.Partials.load_congr
  intro file candidate
  exact (alike _ ⟨_, mem, name, file, candidate, rfl⟩).resources

/-- On files in which all that is looked up is alike, a renderer finds the same layouts and
partials. -/
theorem agrees : (renderer.pipeline language fs).Agrees (renderer.pipeline language fs') := by
  have candidates (name : String) :
      ∀ file ∈ (Template.Partials.logicalPath renderer.layouts name).candidates renderer.extensions,
        (Resources.disk fs renderer.root).Alike (Resources.disk fs' renderer.root) file :=
    fun file candidate => (alike _ ⟨_, layouts_mem_directories _, name, file, candidate, rfl⟩).resources
  have layout (name : String) := Resources.resolve_congr_of_alike (candidates name)
  -- the compilers, the site and the names of directories do not depend on files
  exact ⟨rfl, rfl, Template.engine_congr (load_congr alike), fun name => (layout name).1,
    fun name => (layout name).2⟩

/-- Such files have the same page for a document that is alike in them as well. -/
theorem renderPath_congr_of_alike {source : Path}
    (exact : ∀ file ∈ source.candidates [""], fs.Alike fs' (renderer.root.join file))
    (caller : Variables) (s : Registry R) :
    ((renderer.pipeline language fs).renderPath source caller).runFrom s
      = ((renderer.pipeline language fs').renderPath source caller).runFrom s := by
  obtain ⟨resolve, text⟩ :=
    Resources.resolve_congr_of_alike fun file mem => (exact file mem).resources
  exact Pipeline.renderPath_congr (agrees language alike) (Resources.disk_isFinite ..)
    (Resources.disk_isFinite ..) caller resolve text s

end

/-- What stands for a row of names exactly is that row. -/
theorem eq_of_mem_candidates_exact {names : List Name} (valid : ∀ name ∈ names, name.IsSegment)
    {file : Path} (h : file ∈ (Path.ofNames names).candidates [""]) : file = Path.ofNames names := by
  obtain ⟨init, last, e, isBlank, -, split, rfl⟩ := Path.mem_candidates h
  obtain rfl := List.mem_singleton.mp isBlank
  rw [Path.names_ofNames valid] at split
  simp [split, Name.ofString]

/-! ## Section 3: Trees that agree -/

/-- Trees with the same layouts and partials. -/
structure SameReads (renderer : Renderer R) (fs fs' : FileSystem) : Prop where
  tree : fs.IsTree
  tree' : fs'.IsTree
  file? : ∀ place, renderer.Reads place → fs.file? place = fs'.file? place

theorem SameReads.alike (same : renderer.SameReads fs fs') {path : Path} (plain : path.IsPlain)
    (file : fs.file? path.place = fs'.file? path.place) : fs.Alike fs' path where
  isFile := FileSystem.isFile_congr same.tree same.tree' plain file
  text := FileSystem.readText_congr same.tree same.tree' plain file

/-- Trees with the same layouts and partials have the same page for a file that is the same in
both. -/
theorem renderPath_congr (placed : renderer.IsPlaced)
    (unbroken : ∀ e ∈ renderer.extensions, '/' ∉ e.toList) (language : ScriptLanguage R)
    (same : renderer.SameReads fs fs') {names : List Name} (valid : ∀ name ∈ names, name.IsSegment)
    (file : fs.file? (renderer.root.place ++ names) = fs'.file? (renderer.root.place ++ names))
    (caller : Variables) (s : Registry R) :
    ((renderer.pipeline language fs).renderPath (Path.ofNames names) caller).runFrom s
      = ((renderer.pipeline language fs').renderPath (Path.ofNames names) caller).runFrom s := by
  obtain ⟨plain, place⟩ := Path.join_ofNames placed.root valid
  rw [← place] at file
  refine renderPath_congr_of_alike language ?_ (fun candidate mem => ?_) caller s
  · rintro path ⟨directory, mem, name, candidate, isCandidate, rfl⟩
    obtain ⟨plain, reads⟩ := reads_of_mem_candidates placed unbroken mem isCandidate
    exact same.alike plain (same.file? _ reads)
  · rw [eq_of_mem_candidates_exact valid mem]
    exact same.alike plain file

end Renderer

end Folio
