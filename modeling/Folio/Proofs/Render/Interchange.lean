import Folio.Proofs.Path.Extension
import Folio.Proofs.Renderer.Reads

/-!
# Files in memory and in a directory

Resources in memory are a list of paths with texts, compared by their components. Resources in a
directory are found by following names from one directory into the next, and a directory is no file.
If a directory holds just the files of the list, both have the same files along rows of names, and
rows of names are all that a logical path is resolved to as long as extensions have no separators. So
documents, layouts and partials are found alike, and rendering gives the same, failures included.

Main definitions:
- `FileSystem.IsRoot`: a path that leads to a directory
- `FileSystem.Holds`: a directory with just these files
- `Pipeline.reading`: rendering over any resources

Main statements:
- `FileSystem.Holds.alike`: the same file, or none in both
- `Pipeline.memory_eq_disk`: the same results
-/

namespace Folio

/-! ## Section 1: Paths below a directory -/

namespace Path

theorem isAbsolute_join_of_relative (p : Path) {q : Path} (relative : q.isAbsolute = false) :
    (p.join q).isAbsolute = p.isAbsolute := by
  obtain ⟨before⟩ := p
  obtain ⟨after⟩ := q
  rw [join, if_neg (by simp [relative])]
  cases before with
  | nil => simpa [isAbsolute] using relative
  | cons b rest => split <;> simp [isAbsolute]

/-- A byte other than a separator comes from one of the two paths. -/
theorem mem_bytes_of_mem_join {p q : Path} {b : UInt8} (h : b ∈ (p.join q).bytes)
    (notSlash : b ≠ Name.slash) : b ∈ p.bytes ∨ b ∈ q.bytes := by
  unfold join at h
  split at h
  · exact .inr h
  · split at h <;> simp_all

theorem ofNames_bytes_ne_nil {names : List Name} (nonempty : names ≠ [])
    (valid : ∀ name ∈ names, name.IsSegment) : (ofNames names).bytes ≠ [] := by
  intro empty
  have segments := segments_ofNames nonempty valid
  rw [Path.segments, empty] at segments
  -- the only segment of nothing is no name
  have noName := valid [] (segments ▸ List.mem_singleton_self _)
  exact noName.ne_nil rfl

/-- Names below a directory come behind its components, also if its path is empty. -/
theorem components_join_ofNames (root : Path) {names : List Name}
    (valid : ∀ name ∈ names, name.IsSegment) :
    (root.join (ofNames names)).components = root.components ++ names.map .normal := by
  have relative := isAbsolute_ofNames valid
  by_cases empty : root.bytes = []
  · obtain rfl : root = ⟨[]⟩ := by
      cases root
      exact congrArg Path.mk empty
    have joined : Path.join ⟨[]⟩ (ofNames names) = ofNames names := by
      rw [join, if_neg (by simp [relative])]
      rfl
    rw [joined, components_ofNames valid]
    rfl
  · rw [components_join empty relative, steps_ofNames valid]

end Path

namespace FileSystem

variable {fs : FileSystem} {root : Path} {place q : Place} {names : List Name} {content : ByteArray}

/-- A path leads to a directory. The empty path stands for the working directory. -/
structure IsRoot (fs : FileSystem) (root : Path) (place : Place) : Prop where
  noNul : 0 ∉ root.bytes
  leads : fs.follow (if root.isAbsolute then [] else fs.workingDirectory) root.components = .ok place
  directory : fs.entry? place = some .directory

/-- Names below a directory are followed from there. -/
theorem IsRoot.locate_join (isRoot : fs.IsRoot root place) (nonempty : names ≠ [])
    (valid : ∀ name ∈ names, name.IsSegment)
    (noNul : (root.join (.ofNames names)).bytes.contains 0 = false) :
    fs.locate (root.join (.ofNames names)) = fs.follow place (names.map .normal) := by
  have relative := Path.isAbsolute_ofNames valid
  have spelled : (root.join (.ofNames names)).bytes ≠ [] := by
    have inner := Path.ofNames_bytes_ne_nil nonempty valid
    rw [Path.join, if_neg (by simp [relative])]
    split <;> simp [inner]
  rw [locate, noNul, if_neg (by simp), if_neg spelled, Path.isAbsolute_join_of_relative _ relative,
    Path.components_join_ofNames root valid, follow_append, isRoot.leads]
  rfl

/-- A row of names below a directory leads to the file at its place, and to no other. -/
theorem IsRoot.find_join_iff (isRoot : fs.IsRoot root place) (tree : fs.IsTree)
    (nonempty : names ≠ []) (valid : ∀ name ∈ names, name.IsSegment) :
    fs.find (root.join (.ofNames names)) = .ok (q, .file content)
      ↔ q = place ++ names ∧ fs.file? q = some content := by
  rw [find_eq_ok_iff, file?_eq_some_iff]
  constructor
  · rintro ⟨located, isEntry, -⟩
    rw [isRoot.locate_join nonempty valid (locate_noNul located)] at located
    have walked := follow_eq_ok located
    rw [Path.foldl_walk_normal] at walked
    exact ⟨walked, isEntry⟩
  · rintro ⟨rfl, isEntry⟩
    have noNul : (root.join (.ofNames names)).bytes.contains 0 = false := by
      rw [Bool.eq_false_iff]
      intro nul
      rcases Path.mem_bytes_of_mem_join (List.contains_iff_mem.mp nul) (by decide) with inRoot | inner
      · exact isRoot.noNul inRoot
      · -- it would be in a name that has a place
        obtain ⟨name, mem, inName⟩ := Path.exists_mem_names_of_mem_bytes inner (by decide) (by decide)
        rw [Path.names_ofNames valid] at mem
        have named := tree.valid_of_isEntry isEntry name (List.mem_append_right _ mem)
        exact named.noNul inName
    have followed : fs.follow place (names.map .normal) = .ok (place ++ names) :=
      tree.follow_names (by simp [isEntry])
    refine ⟨by rw [isRoot.locate_join nonempty valid noNul, followed], isEntry, fun _ => ?_⟩
    rw [asksForDirectory_join, asksForDirectory_ofNames nonempty valid]

theorem IsRoot.isFile_join (isRoot : fs.IsRoot root place) (tree : fs.IsTree)
    (nonempty : names ≠ []) (valid : ∀ name ∈ names, name.IsSegment) :
    fs.isFile (root.join (.ofNames names)) = (fs.file? (place ++ names)).isSome := by
  rw [Bool.eq_iff_iff, isFile_iff, Option.isSome_iff_exists]
  constructor
  · rintro ⟨q, content, found⟩
    obtain ⟨rfl, file⟩ := (isRoot.find_join_iff tree nonempty valid).mp found
    exact ⟨content, file⟩
  · rintro ⟨content, file⟩
    exact ⟨_, content, (isRoot.find_join_iff tree nonempty valid).mpr ⟨rfl, file⟩⟩

theorem IsRoot.readText_join (isRoot : fs.IsRoot root place) (tree : fs.IsTree)
    (nonempty : names ≠ []) (valid : ∀ name ∈ names, name.IsSegment)
    (file : fs.file? (place ++ names) = some content) :
    fs.readText (root.join (.ofNames names)) = textOf content := by
  have found := (isRoot.find_join_iff tree nonempty valid).mpr ⟨rfl, file⟩
  rw [readText, readBytes, found]
  rfl

end FileSystem

/-! ## Section 2: The same files -/

namespace Resources

variable {files : List (Path × String)} {path : Path} {text : String}

theorem exists_of_lookupText (h : lookupText path files = some text) :
    ∃ file ∈ files, file.1.equiv path ∧ file.2 = text := by
  induction files with
  | nil => cases h
  | cons file rest ih =>
    obtain ⟨p, t⟩ := file
    unfold lookupText at h
    split at h
    · rename_i same
      exact ⟨_, List.mem_cons_self, same, Option.some.inj h⟩
    · obtain ⟨file, mem, found⟩ := ih h
      exact ⟨file, List.mem_cons_of_mem _ mem, found⟩

theorem lookupText_eq_none_iff :
    lookupText path files = none ↔ ∀ file ∈ files, ¬ file.1.equiv path := by
  induction files with
  | nil => simp [lookupText]
  | cons file rest ih =>
    obtain ⟨p, t⟩ := file
    unfold lookupText
    by_cases same : p.equiv path <;> simp [same, ih]

end Resources

/-- A path leads to a directory, and the files below it are those of a list: at every row of names,
there is a file just if the names are the components of a path in the list, and it has the text from
there. -/
structure FileSystem.Holds (fs : FileSystem) (root : Path) (files : List (Path × String)) :
    Prop where
  tree : fs.IsTree
  place : ∃ place, fs.IsRoot root place ∧ ∀ names content,
    fs.file? (place ++ names) = some content
      ↔ ∃ file ∈ files, file.1.components = names.map .normal ∧ file.2.toByteArray = content

/-- What a directory holds can be told from the entries. -/
theorem FileSystem.holds_of_entries {fs : FileSystem} {root : Path} {files : List (Path × String)}
    {place : Place} (tree : fs.IsTree) (isRoot : fs.IsRoot root place)
    (listed : ∀ below ∈ fs.filesBelow place,
      ∃ file ∈ files, file.1.components = below.1.map .normal ∧ file.2.toByteArray = below.2)
    (there : ∀ file ∈ files,
      file.1.isClean ∧ fs.file? (place ++ file.1.names) = some file.2.toByteArray) :
    fs.Holds root files := by
  refine ⟨tree, place, isRoot, fun names content => ⟨fun file => ?_, ?_⟩⟩
  · have isEntry := file?_eq_some_iff.mp file
    have nonempty : place ++ names ≠ [] := by
      intro top
      rw [top] at isEntry
      cases isEntry
    -- a file below the directory is one of those that are listed
    have mem : (names, content) ∈ fs.filesBelow place := by
      refine List.mem_filterMap.mpr ⟨_, mem_of_isEntry nonempty isEntry, ?_⟩
      simp
    exact listed _ mem
  · rintro ⟨file, mem, components, rfl⟩
    obtain ⟨clean, found⟩ := there file mem
    have named := (Path.components_of_isClean clean).symm.trans components
    have injective : Function.Injective Component.normal := fun _ _ h => Component.normal.inj h
    rwa [List.map_injective_iff.mpr injective named] at found

/-- Below a directory that holds just these files, a row of names stands for the same as in memory. -/
theorem FileSystem.Holds.alike {fs : FileSystem} {root : Path} {files : List (Path × String)}
    (holds : fs.Holds root files) {names : List Name} (nonempty : names ≠ [])
    (valid : ∀ name ∈ names, name.IsSegment) :
    (Resources.memory files).Alike (Resources.disk fs root) (.ofNames names) := by
  obtain ⟨tree, place, isRoot, same⟩ := holds
  have components := Path.components_ofNames valid
  have isFile := isRoot.isFile_join tree nonempty valid
  cases inMemory : Resources.lookupText (.ofNames names) files with
  | none =>
    have absent := Resources.lookupText_eq_none_iff.mp inMemory
    have none : fs.file? (place ++ names) = Option.none := by
      rw [Option.eq_none_iff_forall_ne_some]
      intro content file
      obtain ⟨file, mem, named, -⟩ := (same names content).mp file
      exact absent file mem (Path.equiv_iff.mpr (named.trans components.symm))
    have has : (Resources.memory files).has (.ofNames names) = false := by
      simp [Resources.memory, inMemory]
    refine ⟨?_, fun present => absurd present (by simp [has])⟩
    simp [has, Resources.disk, isFile, none]
  | some text =>
    obtain ⟨file, mem, named, rfl⟩ := Resources.exists_of_lookupText inMemory
    have found : fs.file? (place ++ names) = some file.2.toByteArray :=
      (same names _).mpr ⟨file, mem, (Path.equiv_iff.mp named).trans components, rfl⟩
    refine ⟨?_, fun _ => ?_⟩
    · simp [Resources.memory, Resources.disk, inMemory, isFile, found]
    · have read := isRoot.readText_join tree nonempty valid found
      rw [FileSystem.textOf_toByteArray] at read
      simp [Resources.memory, Resources.disk, inMemory, read]

/-! ## Section 3: The same results -/

namespace Pipeline

variable {S : Type}

/-- What rendering needs besides resources. The engine has extensions of its own for partials. -/
structure Setup (S : Type) where
  compile : Path → String → Site → StateM S (Except CompileError String)
  extensions : List String
  partialExtensions : List String
  layouts : Path
  includes : Path
  site : Site

/-- No extension has a separator in it. -/
structure Setup.IsUnbroken (setup : Setup S) : Prop where
  extensions : ∀ e ∈ setup.extensions, '/' ∉ e.toList
  partialExtensions : ∀ e ∈ setup.partialExtensions, '/' ∉ e.toList

/-- Rendering over resources, with partials from there as well. -/
def reading (setup : Setup S) (resources : Resources) : Pipeline S where
  resources := resources
  compile := setup.compile
  engine := Template.engine (some ⟨resources, setup.includes, setup.partialExtensions⟩)
  extensions := setup.extensions
  layouts := setup.layouts
  site := setup.site

section Interchange

variable {fs : FileSystem} {root : Path} {files : List (Path × String)}
  (holds : fs.Holds root files)

include holds

/-- A logical path is resolved to the same file with the same text. -/
theorem resolve_memory_disk {extensions : List String}
    (unbroken : ∀ e ∈ extensions, '/' ∉ e.toList) (logical : Path) :
    (Resources.memory files).resolve logical extensions
        = (Resources.disk fs root).resolve logical extensions
      ∧ ∀ file, (Resources.memory files).resolve logical extensions = some file →
          (Resources.memory files).readText file = (Resources.disk fs root).readText file := by
  apply Resources.resolve_congr_of_alike
  intro file candidate
  -- all that a logical path can stand for are rows of names
  obtain ⟨names, nonempty, valid, rfl⟩ := Path.exists_names_of_mem_candidates unbroken candidate
  exact holds.alike nonempty valid

/-- A name of a partial stands for the same source. -/
theorem load_memory_disk {extensions : List String} (unbroken : ∀ e ∈ extensions, '/' ∉ e.toList)
    (directory : Path) (name : String) :
    Template.Partials.load ⟨.memory files, directory, extensions⟩ name
      = Template.Partials.load ⟨.disk fs root, directory, extensions⟩ name := by
  apply Template.Partials.load_congr
  intro file candidate
  obtain ⟨names, nonempty, valid, rfl⟩ := Path.exists_names_of_mem_candidates unbroken candidate
  exact holds.alike nonempty valid

/-- Both find the same layouts and partials. -/
theorem agrees_memory_disk {setup : Setup S} (unbroken : setup.IsUnbroken) :
    (reading setup (.memory files)).Agrees (reading setup (.disk fs root)) where
  compile := rfl
  site := rfl
  engine := Template.engine_congr
    fun name => load_memory_disk holds unbroken.partialExtensions setup.includes name
  layout := fun _ => (resolve_memory_disk holds unbroken.extensions _).1
  text := fun _ => (resolve_memory_disk holds unbroken.extensions _).2

/-- If a directory holds just the files of a list, resources in memory and in the directory are
interchangeable: a path is resolved to the same file, a partial has the same source, and a document is
rendered to the same page or fails in the same way, by its logical path and by that of its file,
whatever compilers, directories and variables there are. -/
theorem memory_eq_disk {setup : Setup S} (unbroken : setup.IsUnbroken) (path : Path)
    (caller : Variables) (s : S) :
    let memory := reading setup (.memory files)
    let disk := reading setup (.disk fs root)
    memory.resolve path = disk.resolve path
      ∧ (∀ name, Template.Partials.load ⟨.memory files, setup.includes, setup.partialExtensions⟩ name
        = Template.Partials.load ⟨.disk fs root, setup.includes, setup.partialExtensions⟩ name)
      ∧ (memory.render path caller).runFrom s = (disk.render path caller).runFrom s
      ∧ (memory.renderPath path caller).runFrom s = (disk.renderPath path caller).runFrom s := by
  intro memory disk
  have agrees : memory.Agrees disk := agrees_memory_disk holds unbroken
  have finite : memory.resources.IsFinite := Resources.memory_isFinite files
  have finite' : disk.resources.IsFinite := Resources.disk_isFinite fs root
  have exactly : ∀ e ∈ [""], '/' ∉ e.toList := by simp
  obtain ⟨resolve, text⟩ := resolve_memory_disk holds unbroken.extensions path
  obtain ⟨exact, exactText⟩ := resolve_memory_disk holds exactly path
  refine ⟨resolve, load_memory_disk holds unbroken.partialExtensions setup.includes, ?_, ?_⟩
  · exact render_congr agrees finite finite' caller resolve text s
  · exact renderPath_congr agrees finite finite' caller exact exactText s

end Interchange

/-- A project with a page, a layout and a partial. -/
def withPartial : FileSystem where
  entries := [([.ofString "w"], .directory),
    ([.ofString "w", .ofString "site"], .directory),
    ([.ofString "w", .ofString "site", .ofString "_includes"], .directory),
    ([.ofString "w", .ofString "site", .ofString "_includes", .ofString "b.txt"],
      .file "y".toByteArray),
    ([.ofString "w", .ofString "site", .ofString "_layouts"], .directory),
    ([.ofString "w", .ofString "site", .ofString "_layouts", .ofString "a.html"],
      .file "<[[quire:body]]>".toByteArray),
    ([.ofString "w", .ofString "site", .ofString "page.txt"],
      .file "---\nlayout: a\n---\nx\x7b% include 'b' %\x7d".toByteArray)]
  workingDirectory := [.ofString "w"]

/-- Its files, spelled in other ways. -/
def withPartialFiles : List (Path × String) :=
  [(.ofString "page.txt/", "---\nlayout: a\n---\nx\x7b% include 'b' %\x7d"),
    (.ofString "_layouts//a.html", "<[[quire:body]]>"), (.ofString "_includes/./b.txt", "y")]

/-- The page in its layout, with the partial in it. -/
theorem memory_eq_disk_withPartial :
    let setup : Setup Unit :=
      { compile := fun _ text _ => pure (.ok text), extensions := defaultExtensions
        partialExtensions := defaultExtensions, layouts := .ofString "_layouts"
        includes := .ofString "_includes", site := {} }
    let root := Path.ofString "./site/"
    withPartial.Holds root withPartialFiles ∧ setup.IsUnbroken
      ∧ ((reading setup (.disk withPartial root)).render (.ofString "page") .empty).runFrom ()
        = (.ok "<xy>", ()) := by
  intro setup root
  have isRoot : withPartial.IsRoot root [.ofString "w", .ofString "site"] :=
    ⟨by decide +kernel, by decide +kernel, by decide +kernel⟩
  have holds : withPartial.Holds root withPartialFiles :=
    FileSystem.holds_of_entries (by decide +kernel) isRoot (by decide +kernel) (by decide +kernel)
  have unbroken : setup.IsUnbroken := ⟨by decide, by decide⟩
  obtain ⟨-, -, same, -⟩ := memory_eq_disk holds unbroken (.ofString "page") .empty ()
  refine ⟨holds, unbroken, same.symm.trans ?_⟩
  decide +kernel

end Pipeline

end Folio
