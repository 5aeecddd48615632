import Folio.Config.Load
import Folio.Proofs.Config.Validation
import Folio.Proofs.FileSystem.Tree
import Folio.Proofs.Renderer.Reads

/-!
# Settings that have been loaded

Loading settings makes their paths absolute and checks them. The root is a directory, so its path is
spelled by its place; where nothing is yet, as is usual for the output directory, a path stays as it
was spelled, and can step upwards. The directories of layouts and partials stay below the root.

Main definitions: `Config.IsResolved`, `Config.IsAbsolute`, `Renderer.Follows`.

Main statements: `Config.load_isResolved`, `Renderer.Follows.isPlaced`.
-/

namespace Folio

/-! ## Section 1: Absolute paths -/

namespace FileSystem

variable {fs : FileSystem} {p : Path}

theorem isAbsolute_absolute (fs : FileSystem) (p : Path) : (fs.absolute p).isAbsolute := by
  unfold absolute canonicalize
  split
  · rename_i path found
    split at found
    · obtain rfl := Except.ok.inj found
      exact Path.isAbsolute_ofRootNames _
    · cases found
  · exact Path.isAbsolute_join (Path.isAbsolute_ofRootNames _) p

/-- The absolute path of something that has a place is spelled by the place. -/
theorem absolute_of_find {place : Place} {entry : Entry} (h : fs.find p = .ok (place, entry)) :
    fs.absolute p = Path.ofRootNames place := by
  rw [absolute, canonicalize, h]

theorem absolute_of_isAbsolute (absolute : p.isAbsolute) :
    (∃ place entry, fs.find p = .ok (place, entry) ∧ fs.absolute p = Path.ofRootNames place)
      ∨ (∃ e, fs.find p = .error e) ∧ fs.absolute p = p := by
  -- a path is replaced by its place only if something is there
  cases found : fs.find p with
  | ok result => exact .inl ⟨result.1, result.2, rfl, absolute_of_find found⟩
  | error e =>
    refine .inr ⟨⟨e, rfl⟩, ?_⟩
    rw [FileSystem.absolute, canonicalize, found]
    exact Path.join_of_isAbsolute _ absolute

/-- A path from the root that is spelled by names is absolute as it is. -/
theorem absolute_ofRootNames (fs : FileSystem) {names : List Name}
    (valid : ∀ name ∈ names, name.IsSegment) :
    fs.absolute (.ofRootNames names) = .ofRootNames names := by
  have absolute := Path.isAbsolute_ofRootNames names
  obtain ⟨place, entry, found, spelled⟩ | ⟨-, same⟩ := fs.absolute_of_isAbsolute absolute
  · -- what is there has the place that the names spell
    have place' := locate_eq_ok absolute (find_eq_ok_iff.mp found).1
    rw [spelled, place', Path.place_ofRootNames valid]
  · exact same

/-- An absolute path to a directory is spelled by a place of names. -/
theorem IsTree.absolute_directory (tree : fs.IsTree) (absolute : p.isAbsolute)
    (h : fs.isDirectory (fs.absolute p)) :
    ∃ place : Place, (∀ name ∈ place, name.IsValid) ∧ fs.absolute p = Path.ofRootNames place := by
  obtain ⟨place, entry, found, spelled⟩ | ⟨⟨e, missing⟩, same⟩ := absolute_of_isAbsolute absolute
  · exact ⟨place, tree.valid_of_isEntry (find_eq_ok_iff.mp found).2.1, spelled⟩
  · rw [same, isDirectory, missing] at h
    cases h

end FileSystem

theorem Path.staysBelow_iff {p : Path} (h : p.staysBelow) :
    p.isAbsolute = false ∧ .parent ∉ p.steps := by
  simp only [staysBelow, List.all_eq_true, Bool.or_eq_true, decide_eq_true_eq] at h
  constructor
  · rw [Bool.eq_false_iff]
    intro absolute
    have root := h .root (by simp [components_eq_root_steps absolute])
    simp [Component.name?] at root
  · intro upwards
    have parent := h .parent (parent_mem_components.mpr upwards)
    simp [Component.name?] at parent

/-! ## Section 2: Checked settings -/

namespace Config

/-- Settings with absolute paths whose directories are where they should be. -/
structure IsResolved (config : Config) : Prop where
  root : ∃ place : Place, (∀ name ∈ place, name.IsValid)
    ∧ config.build.root = Path.ofRootNames place
  output : config.build.output.isAbsolute
  layouts : config.build.layouts.staysBelow
  includes : config.build.includes.staysBelow

/-- Settings with absolute paths. The directories of layouts and partials are seen from the root. -/
structure IsAbsolute (config : Config) : Prop where
  root : config.build.root.isAbsolute
  output : config.build.output.isAbsolute
  layouts : config.build.layouts.isAbsolute = false
  includes : config.build.includes.isAbsolute = false

/-- The root is spelled by the names of its place. -/
theorem IsResolved.root_eq {config : Config} (resolved : config.IsResolved) :
    (∀ name ∈ config.build.root.place, name.IsSegment)
      ∧ config.build.root = Path.ofRootNames config.build.root.place := by
  obtain ⟨place, valid, root⟩ := resolved.root
  have segments : ∀ name ∈ place, name.IsSegment := fun name mem => (valid name mem).toIsSegment
  have same : config.build.root.place = place := by rw [root, Path.place_ofRootNames segments]
  exact ⟨same ▸ segments, same ▸ root⟩

theorem IsResolved.isPlain_root {config : Config} (resolved : config.IsResolved) :
    config.build.root.IsPlain := by
  rw [resolved.root_eq.2]
  exact Path.isPlain_ofRootNames resolved.root_eq.1

theorem IsResolved.isAbsolute {config : Config} (resolved : config.IsResolved) :
    config.IsAbsolute where
  root := resolved.isPlain_root.absolute
  output := resolved.output
  layouts := (Path.staysBelow_iff resolved.layouts).1
  includes := (Path.staysBelow_iff resolved.includes).1

theorem IsAbsolute.relative {config : Config} (absolute : config.IsAbsolute) {directory : Path}
    (mem : directory ∈ [config.build.layouts, config.build.includes]) :
    directory.isAbsolute = false := by
  simp only [List.mem_cons, List.not_mem_nil, or_false] at mem
  rcases mem with rfl | rfl
  · exact absolute.layouts
  · exact absolute.includes

theorem IsResolved.staysBelow {config : Config} (resolved : config.IsResolved) {directory : Path}
    (mem : directory ∈ [config.build.layouts, config.build.includes]) : directory.staysBelow := by
  simp only [List.mem_cons, List.not_mem_nil, or_false] at mem
  rcases mem with rfl | rfl
  · exact resolved.layouts
  · exact resolved.includes

theorem bind_eq_ok {ε α β : Type} {x : Except ε α} {next : α → Except ε β} {b : β}
    (h : x >>= next = .ok b) : ∃ a, x = .ok a ∧ next a = .ok b := by
  cases x with
  | error e => cases h
  | ok a => exact ⟨a, rfl, h⟩

theorem load_eq_ok {fs : FileSystem} {commandLine : CommandLine} {config : Config}
    (h : load fs commandLine = .ok config) :
    ∃ read : Config, config = read.update fs commandLine ∧ config.check fs = .ok () := by
  unfold load at h
  dsimp only at h
  -- the settings are those of a file or the defaults; either way they are updated and checked
  split at h
  all_goals
    obtain ⟨read, -, checked⟩ := bind_eq_ok h
    split at checked
    · cases checked
    · rename_i ok
      obtain rfl := Except.ok.inj checked
      exact ⟨read, rfl, ok⟩

/-- Settings that have been loaded are resolved. -/
theorem load_isResolved {fs : FileSystem} (tree : fs.IsTree) {commandLine : CommandLine}
    {config : Config} (h : load fs commandLine = .ok config) : config.IsResolved := by
  obtain ⟨read, rfl, checked⟩ := load_eq_ok h
  obtain ⟨isDirectory, -, -, layouts, includes, -⟩ := check_eq_ok_iff.mp checked
  have project : (fs.absolute (projectRoot commandLine)).isAbsolute := fs.isAbsolute_absolute _
  exact ⟨tree.absolute_directory (Path.isAbsolute_join project _) isDirectory,
    fs.isAbsolute_absolute _, layouts, includes⟩

/-! ### How loading fails -/

/-- The settings file of a command line. -/
def settingsFile (commandLine : CommandLine) : Path :=
  (projectRoot commandLine).join commandLine.config

/-- The settings as they are written, or the defaults if there is no file. -/
def readSettings (fs : FileSystem) (commandLine : CommandLine) : Except ConfigError Config :=
  if fs.pathExists (settingsFile commandLine) then readFile fs (settingsFile commandLine)
  else .ok {}

/-- The stages of loading settings. -/
theorem load_eq (fs : FileSystem) (commandLine : CommandLine) :
    load fs commandLine
      = match readSettings fs commandLine with
        | .error e => .error e
        | .ok config =>
            match (config.update fs commandLine).check fs with
            | .error fault => .error (.invalid fault)
            | .ok () => .ok (config.update fs commandLine) := by
  unfold load readSettings
  dsimp only
  rw [← settingsFile]
  split
  · cases readFile fs (settingsFile commandLine) with
    | error e => rfl
    | ok config =>
      dsimp only [bind, Except.bind]
      cases (config.update fs commandLine).check fs <;> rfl
  · dsimp only [bind, Except.bind, pure, Except.pure]
    cases (update fs commandLine {}).check fs <;> rfl

/-- Settings are loaded just if they can be read and pass the check once they are updated. -/
theorem load_eq_ok_iff {fs : FileSystem} {commandLine : CommandLine} {config : Config} :
    load fs commandLine = .ok config
      ↔ ∃ read, readSettings fs commandLine = .ok read ∧ read.update fs commandLine = config
        ∧ config.check fs = .ok () := by
  rw [load_eq]
  cases readSettings fs commandLine with
  | error e => simp
  | ok read =>
    dsimp only
    cases checked : (read.update fs commandLine).check fs with
    | error fault => simp only [reduceCtorEq, Except.ok.injEq, exists_eq_left', false_iff]; grind
    | ok => simp only [Except.ok.injEq, exists_eq_left']; grind

theorem readSettings_eq_error_iff {fs : FileSystem} {commandLine : CommandLine} :
    (∃ e, readSettings fs commandLine = .error e)
      ↔ fs.pathExists (settingsFile commandLine)
        ∧ ((∃ cause, fs.readText (settingsFile commandLine) = .error cause)
          ∨ ∃ text e, fs.readText (settingsFile commandLine) = .ok text
            ∧ ofText text = .error e) := by
  unfold readSettings
  split
  · rename_i present
    unfold readFile
    cases fs.readText (settingsFile commandLine) with
    | error cause => simp [present]
    | ok text =>
      cases malformed : ofText text with
      | error e => simp [present, malformed]
      | ok config => simp [malformed]
  · rename_i absent
    simp [absent]

end Config

/-! ## Section 3: The renderer of resolved settings -/

namespace Renderer

variable {R : Type} {language : ScriptLanguage R} {fs : FileSystem} {config : Config}
  {renderer : Renderer R}

/-- A renderer takes its directories and extensions from the settings. -/
structure Follows (renderer : Renderer R) (config : Config) : Prop where
  root : renderer.root = config.build.root
  layouts : renderer.layouts = config.build.layouts
  includes : renderer.includes = config.build.includes
  extensions : renderer.extensions = config.build.extensions

theorem ofConfig_follows (h : ofConfig language fs config = .ok renderer) :
    renderer.Follows config := by
  unfold ofConfig at h
  dsimp only at h
  cases registry : Registry.ofConfig language fs config.build.root config.compilers with
  | error e =>
    rw [registry] at h
    cases h
  | ok registry' =>
    rw [registry] at h
    obtain rfl := Except.ok.inj h
    exact ⟨rfl, rfl, rfl, rfl⟩

theorem Follows.isPlaced (follows : renderer.Follows config) (resolved : config.IsResolved) :
    renderer.IsPlaced := by
  refine ⟨?_, ?_, ?_⟩
  · rw [follows.root]
    exact resolved.isPlain_root
  · rw [follows.layouts]
    exact (Path.staysBelow_iff resolved.layouts).1
  · rw [follows.includes]
    exact (Path.staysBelow_iff resolved.includes).1

end Renderer

end Folio
