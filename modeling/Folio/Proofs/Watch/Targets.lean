import Folio.Proofs.Build.Site
import Folio.Proofs.Watch.OwnOutput
import Folio.Watch.Watcher

/-!
# What is watched

What a file means and what is watched are told by two rules. The first compares components, so a
separator at the end of the path of the settings file does not count. The second asks whether
something is there, and with such a separator no file is. The two rules agree on every file but this
one: a settings file outside the root whose path asks for a directory counts as the settings and is
not watched. Such a path is never read either, so no scripts are known then.

Main definitions:
- `IsWatched`: a path is a target, or below a directory that is one
- `Config.Overlooks`: the settings file that is not watched
- `Watcher.Asked`: how asking a watcher for targets can go

Main statements:
- `Watcher.asked_setUp`: each target is asked for once, up to the first that is refused
- `Config.isWatched_iff_not_overlooks`: which files that count are watched
-/

namespace Folio

/-! ## Section 1: Paths that ask for a directory -/

namespace FileSystem

variable {fs : FileSystem} {p : Path}

/-- No text is read along a path that asks for a directory. -/
theorem readText_of_asksForDirectory (asks : asksForDirectory p) :
    ∃ cause, fs.readText p = .error cause := by
  unfold readText readBytes
  cases found : fs.find p with
  | error e => exact ⟨e, rfl⟩
  | ok result =>
    obtain ⟨place, entry⟩ := result
    cases entry with
    | directory => exact ⟨_, rfl⟩
    | file content =>
      have notAsked := (find_eq_ok_iff.mp found).2.2 (by simp)
      simp [notAsked] at asks

/-- The absolute path of a file asks for no directory, since it is the path of a place. -/
theorem IsTree.asksForDirectory_absolute_of_isFile (tree : fs.IsTree) (absolute : p.isAbsolute)
    (isFile : fs.isFile (fs.absolute p)) : asksForDirectory (fs.absolute p) = false := by
  obtain ⟨place, content, found⟩ := FileSystem.isFile_iff.mp isFile
  obtain ⟨place', entry, found', spelled⟩ | ⟨⟨e, missing⟩, same⟩ := absolute_of_isAbsolute absolute
  · have valid := fun name mem =>
      (tree.valid_of_isEntry (find_eq_ok_iff.mp found').2.1 name mem).toIsSegment
    have located := locate_eq_ok (fs.isAbsolute_absolute p) (find_eq_ok_iff.mp found).1
    rw [spelled, Path.place_ofRootNames valid] at located
    rw [spelled]
    refine asksForDirectory_ofRootNames ?_ valid
    -- the root is no file
    rintro rfl
    simpa [located] using find_file found
  · -- nothing is where the path leads
    rw [same, missing] at found
    cases found

/-- A path that means a place leads to the file there, unless it asks for a directory. -/
theorem IsTree.pathExists_iff_of_equiv (tree : fs.IsTree) {place : Place} {content : ByteArray}
    (file : fs.file? place = some content) (same : (Path.ofRootNames place).equiv p)
    (absolute : p.isAbsolute) : fs.pathExists p ↔ asksForDirectory p = false := by
  have isEntry := file?_eq_some_iff.mp file
  have valid := tree.valid_of_file? file
  have steps := (Path.equiv_iff_steps (Path.isAbsolute_ofRootNames place) absolute).mp same
  rw [Path.steps_ofRootNames valid] at steps
  have plain : p.IsPlain := ⟨absolute, by simp [← steps]⟩
  have here : p.place = place := by
    rw [Path.place_of_isAbsolute absolute, ← steps, Path.foldl_walk_normal, List.nil_append]
  have located : fs.locate p = .ok place := by
    have located := tree.locate_eq plain (by simp [here, isEntry])
    rwa [here] at located
  unfold pathExists find
  rw [located]
  dsimp only
  rw [isEntry]
  cases asksForDirectory p <;> simp

end FileSystem

/-! ## Section 2: The files that loaded settings name -/

namespace Config

variable {loaded : FileSystem} {commandLine : CommandLine} {config : Config}

/-- A settings file whose path asks for a directory is not read. -/
theorem readSettings_of_asksForDirectory
    (asks : FileSystem.asksForDirectory commandLine.config)
    (isRead : readSettings loaded commandLine = .ok config) :
    readSettings loaded commandLine = .ok {} := by
  have asks' : FileSystem.asksForDirectory (settingsFile commandLine) := by
    rw [settingsFile, FileSystem.asksForDirectory_join]
    exact asks
  obtain ⟨cause, unread⟩ := loaded.readText_of_asksForDirectory asks'
  unfold readSettings readFile at isRead ⊢
  split
  · -- there is a directory, which cannot be read
    rename_i present
    rw [if_pos present, unread] at isRead
    cases isRead
  · rfl

section Loaded

variable (settings : load loaded commandLine = .ok config)

include settings

theorem isAbsolute_configPath : config.configPath.isAbsolute := by
  obtain ⟨read, -, rfl, -⟩ := load_eq_ok_iff.mp settings
  exact loaded.isAbsolute_absolute _

/-- The path of the settings file keeps what it asks for, unless it leads to something. -/
theorem asksForDirectory_of_configPath (tree : loaded.IsTree)
    (asks : FileSystem.asksForDirectory config.configPath) (notRoot : config.configPath.place ≠ []) :
    FileSystem.asksForDirectory commandLine.config := by
  obtain ⟨read, -, rfl, -⟩ := load_eq_ok_iff.mp settings
  have project := loaded.isAbsolute_absolute (projectRoot commandLine)
  have absolute := Path.isAbsolute_join project commandLine.config
  have isConfigPath : (read.update loaded commandLine).configPath
      = loaded.absolute ((loaded.absolute (projectRoot commandLine)).join commandLine.config) := rfl
  rw [isConfigPath] at asks notRoot
  obtain ⟨place, entry, found, spelled⟩ | ⟨-, same⟩ :=
    loaded.absolute_of_isAbsolute absolute
  · -- what is there is spelled by its place, which asks for nothing
    have valid := fun name mem =>
      (tree.valid_of_isEntry (FileSystem.find_eq_ok_iff.mp found).2.1 name mem).toIsSegment
    rw [spelled, Path.place_ofRootNames valid] at notRoot
    rw [spelled, FileSystem.asksForDirectory_ofRootNames notRoot valid] at asks
    cases asks
  · rwa [same, FileSystem.asksForDirectory_join] at asks

/-- The program of a script is a path of a file, so it asks for no directory. -/
theorem program_of_mem_scripts (tree : loaded.IsTree) {script : ScriptConfig}
    (mem : script ∈ config.compilers.scripts) :
    script.program.isAbsolute ∧ FileSystem.asksForDirectory script.program = false := by
  obtain ⟨read, -, rfl, checked⟩ := load_eq_ok_iff.mp settings
  obtain ⟨-, -, -, -, -, scripts⟩ := check_eq_ok_iff.mp checked
  have isFile := ((ScriptConfig.checkAll_eq_ok_iff.mp scripts).1 script mem).program
  -- programs are made absolute before they are checked
  obtain ⟨written, -, rfl⟩ := List.mem_map.mp mem
  have project := loaded.isAbsolute_absolute (projectRoot commandLine)
  exact ⟨loaded.isAbsolute_absolute _,
    tree.asksForDirectory_absolute_of_isFile (Path.isAbsolute_join project _) isFile⟩

/-- No scripts are known if the path of the settings file asks for a directory. -/
theorem scripts_of_asksForDirectory (asks : FileSystem.asksForDirectory commandLine.config) :
    readSettings loaded commandLine = .ok {} ∧ config.compilers.scripts = [] := by
  obtain ⟨read, isRead, rfl, -⟩ := load_eq_ok_iff.mp settings
  have nothing := readSettings_of_asksForDirectory asks isRead
  obtain rfl : read = {} := Except.ok.inj (isRead.symm.trans nothing)
  refine ⟨nothing, ?_⟩
  -- a command line has no scripts to add
  cases command : commandLine.command <;> simp [update, resolve, override, command]

end Loaded

end Config

/-! ## Section 3: Files that are watched -/

/-- A path is one of the targets, or below a directory that is one. -/
def IsWatched (targets : List (Path × Bool)) (path : Path) : Prop :=
  ∃ target ∈ targets, path.equiv target.1 ∨ target.2 = true ∧ path.startsWith target.1

namespace Config

/-- A place counts as the settings file, is outside the root, and is spelled in the settings by a
path that asks for a directory. -/
structure Overlooks (config : Config) (place : Place) : Prop where
  settings : (Path.ofRootNames place).equiv config.configPath
  asks : FileSystem.asksForDirectory config.configPath
  outside : ¬ (Path.ofRootNames place).startsWith config.build.root

theorem mem_watchTargets {fs : FileSystem} {config : Config} {target : Path × Bool} :
    target ∈ config.watchTargets fs
      ↔ target = (config.build.root, true)
        ∨ target.2 = false ∧ ¬ target.1.startsWith config.build.root ∧ fs.pathExists target.1
          ∧ (target.1 = config.configPath
            ∨ ∃ script ∈ config.compilers.scripts, script.program = target.1) := by
  obtain ⟨path, isDirectory⟩ := target
  simp only [watchTargets, List.mem_cons, List.mem_map, List.mem_filter, List.mem_append,
    List.not_mem_nil, or_false, Bool.and_eq_true, Bool.not_eq_true', Prod.mk.injEq]
  grind

/-- A file that counts and is outside the root is the settings file or a program. -/
theorem settings_or_program {config : Config} (resolved : config.IsResolved) {place : Place}
    (valid : ∀ name ∈ place, name.IsSegment)
    (counts : config.categoryOf (.ofRootNames place) ≠ .unknown)
    (outside : ¬ (Path.ofRootNames place).startsWith config.build.root) :
    (Path.ofRootNames place).equiv config.configPath
      ∨ ∃ script ∈ config.compilers.scripts, script.program.equiv (.ofRootNames place) := by
  by_contra neither
  rw [not_or, not_exists] at neither
  obtain ⟨noSettings, noProgram⟩ := neither
  apply counts
  rw [categoryOf_eq_unknown_iff resolved valid noSettings fun script mem same =>
    noProgram script ⟨mem, same⟩]
  exact .inr outside

section Loaded

variable {loaded later : FileSystem} {commandLine : CommandLine} {config : Config} {place : Place}
  {content : ByteArray} (tree : loaded.IsTree)
  (settings : load loaded commandLine = .ok config) (tree' : later.IsTree)
  (file : later.file? place = some content)

include tree settings tree' file

/-- The settings file is overlooked only if it is asked for as a directory, and nothing is read
then. -/
theorem Overlooks.nothing_read (overlooks : config.Overlooks place) :
    FileSystem.asksForDirectory commandLine.config ∧ readSettings loaded commandLine = .ok {}
      ∧ config.compilers.scripts = [] := by
  have notRoot : config.configPath.place ≠ [] := by
    have same : config.configPath.place = place := by
      rw [Path.place, ← Path.equiv_iff.mp overlooks.settings, ← Path.place,
        Path.place_ofRootNames (tree'.valid_of_file? file)]
    -- the root is no file
    intro top
    rw [← same, top] at file
    cases file
  have asks := asksForDirectory_of_configPath settings tree overlooks.asks notRoot
  exact ⟨asks, scripts_of_asksForDirectory settings asks⟩

/-- A settings file that is overlooked is not watched. -/
theorem Overlooks.not_isWatched (overlooks : config.Overlooks place) :
    ¬ IsWatched (config.watchTargets later) (.ofRootNames place) := by
  obtain ⟨-, -, noScripts⟩ := overlooks.nothing_read tree settings tree' file
  rintro ⟨target, mem, watched⟩
  rcases mem_watchTargets.mp mem with rfl | ⟨isFile, -, present, rest⟩
  · -- a path that means the root would begin with it
    rcases watched with same | ⟨-, below⟩
    · apply overlooks.outside
      simp [Path.startsWith, Path.equiv_iff.mp same]
    · exact overlooks.outside below
  · rcases rest with isSettings | ⟨script, listed, -⟩
    · -- the path asks for a directory, and no file is there
      have absolute := isAbsolute_configPath settings
      rw [isSettings, tree'.pathExists_iff_of_equiv file overlooks.settings absolute,
        overlooks.asks] at present
      cases present
    · simp [noScripts] at listed

omit tree settings in
/-- A file outside the root is watched by itself if the settings or a program name it by a path that
asks for no directory. -/
theorem isWatched_of_named {target : Path}
    (named : target = config.configPath
      ∨ ∃ script ∈ config.compilers.scripts, script.program = target)
    (same : (Path.ofRootNames place).equiv target) (absolute : target.isAbsolute)
    (notAsked : FileSystem.asksForDirectory target = false)
    (outside : ¬ (Path.ofRootNames place).startsWith config.build.root) :
    IsWatched (config.watchTargets later) (.ofRootNames place) := by
  have present : later.pathExists target :=
    (tree'.pathExists_iff_of_equiv file same absolute).mpr notAsked
  have outside' : ¬ target.startsWith config.build.root := by
    rwa [Path.startsWith, ← Path.equiv_iff.mp same, ← Path.startsWith]
  exact ⟨(target, false), mem_watchTargets.mpr (.inr ⟨rfl, outside', present, named⟩), .inl same⟩

/-- A file that counts is watched, unless it is overlooked. -/
theorem isWatched_of_not_overlooks
    (counts : config.categoryOf (.ofRootNames place) ≠ .unknown)
    (notOverlooked : ¬ config.Overlooks place) :
    IsWatched (config.watchTargets later) (.ofRootNames place) := by
  have resolved := load_isResolved tree settings
  have valid := tree'.valid_of_file? file
  by_cases inside : (Path.ofRootNames place).startsWith config.build.root
  · exact ⟨_, mem_watchTargets.mpr (.inl rfl), .inr ⟨rfl, inside⟩⟩
  · rcases settings_or_program resolved valid counts inside with isSettings | ⟨script, mem, same⟩
    · have notAsked : FileSystem.asksForDirectory config.configPath = false := by
        rw [Bool.eq_false_iff]
        exact fun asks => notOverlooked ⟨isSettings, asks, inside⟩
      exact isWatched_of_named tree' file (.inl rfl) isSettings (isAbsolute_configPath settings)
        notAsked inside
    · have same' : (Path.ofRootNames place).equiv script.program := by
        rw [Path.equiv_iff] at same ⊢
        exact same.symm
      obtain ⟨absolute, notAsked⟩ := program_of_mem_scripts settings tree mem
      exact isWatched_of_named tree' file (.inr ⟨script, mem, rfl⟩) same' absolute notAsked inside

end Loaded

end Config

/-! ## Section 4: Asking a watcher -/

namespace Watcher

variable {W : Type} (watcher : Watcher W) (w : W)

/-- What a watcher does when it is asked for a target. -/
def ask (target : Path × Bool) : Bool × W := watcher.watch target.1 (.ofTarget target.2) w

/-- A watcher after it was asked for targets, for each of them once. -/
def after (targets : List (Path × Bool)) : W :=
  targets.foldl (fun w target => (watcher.ask w target).2) w

/-- Every target is accepted in its turn. -/
def AcceptsAll (targets : List (Path × Bool)) : Prop :=
  ∀ before target rest, targets = before ++ target :: rest →
    (watcher.ask (watcher.after w before) target).1 = true

/-- How asking a watcher for targets can go: it accepts all of them, or it refuses one and is asked
no more. -/
inductive Asked (root : Path) (targets : List (Path × Bool)) : Watching W → Prop where
  | all (accepted : watcher.AcceptsAll w targets) :
      Asked root targets
        { result := .ok ()
          notices := targets.map fun target => watchNotice root target.1
          watcher := watcher.after w targets }
  | refused {before rest : List (Path × Bool)} {target : Path × Bool}
      (split : targets = before ++ target :: rest)
      (accepted : watcher.AcceptsAll w before)
      (refuses : (watcher.ask (watcher.after w before) target).1 = false) :
      Asked root targets
        { result := .error ⟨target.1⟩
          notices := before.map fun target => watchNotice root target.1
          watcher := watcher.after w (before ++ [target]) }

variable {watcher w}

theorem AcceptsAll.cons {target : Path × Bool} {rest : List (Path × Bool)}
    (first : (watcher.ask w target).1 = true)
    (later : watcher.AcceptsAll (watcher.ask w target).2 rest) :
    watcher.AcceptsAll w (target :: rest) := by
  intro before target' rest' split
  cases before with
  | nil =>
    obtain ⟨rfl, -⟩ := List.cons.inj split
    exact first
  | cons head before =>
    obtain ⟨rfl, behind⟩ := List.cons.inj split
    exact later before target' rest' behind

/-- However a watcher answers, it is asked for the targets in their order, for a directory with
everything below it, up to the first that it refuses. -/
theorem asked_setUp (watcher : Watcher W) (root : Path) (targets : List (Path × Bool)) (w : W) :
    watcher.Asked w root targets (watcher.setUp root targets w) := by
  -- on the targets, for any state that the watcher is in by then
  induction targets generalizing w with
  | nil => exact .all (by rintro (_ | _) _ _ ⟨⟩)
  | cons target rest ih =>
    have later := ih (watcher.ask w target).2
    have step : watcher.setUp root (target :: rest) w
        = if (watcher.ask w target).1 then
            { watcher.setUp root rest (watcher.ask w target).2 with
              notices := watchNotice root target.1
                :: (watcher.setUp root rest (watcher.ask w target).2).notices }
          else { result := .error ⟨target.1⟩, notices := [], watcher := (watcher.ask w target).2 } :=
      rfl
    rw [step]
    split
    · rename_i first
      generalize watcher.setUp root rest (watcher.ask w target).2 = watching at later
      cases later with
      | all accepted => exact .all (accepted.cons first)
      | @refused before rest' target' split accepted refuses =>
        subst split
        have split' : target :: (before ++ target' :: rest')
            = (target :: before) ++ target' :: rest' := rfl
        exact .refused split' (accepted.cons first) refuses
    · rename_i refuses
      have split : target :: rest = [] ++ target :: rest := rfl
      exact .refused split (by rintro (_ | _) _ _ ⟨⟩) (by simpa [after] using refuses)

end Watcher

/-! ## Section 5: What is watched -/

namespace Config

/-- Of the files that count, exactly those are watched that are not overlooked. A file is overlooked
only as a settings file that is asked for as a directory, when no settings are read. Every watcher is
asked for each target once, up to the first that it refuses. -/
theorem isWatched_iff_not_overlooks {loaded later : FileSystem} (tree : loaded.IsTree)
    (tree' : later.IsTree) {commandLine : CommandLine} {config : Config}
    (settings : load loaded commandLine = .ok config) :
    (∀ place content, later.file? place = some content →
        config.categorize later (.ofRootNames place) ≠ .unknown →
          (IsWatched (config.watchTargets later) (.ofRootNames place) ↔ ¬ config.Overlooks place))
      ∧ (∀ place content, later.file? place = some content → config.Overlooks place →
          config.categorize later (.ofRootNames place) = .settings
            ∧ FileSystem.asksForDirectory commandLine.config
            ∧ readSettings loaded commandLine = .ok {})
      ∧ ∀ {W : Type} (watcher : Watcher W) (w : W),
          watcher.Asked w config.build.root (config.watchTargets later)
            (watcher.setUp config.build.root (config.watchTargets later) w) := by
  have spelled {place : Place} {content : ByteArray} (file : later.file? place = some content) :
      later.absolute (.ofRootNames place) = .ofRootNames place :=
    later.absolute_ofRootNames (tree'.valid_of_file? file)
  refine ⟨?_, ?_, fun watcher w => watcher.asked_setUp _ _ w⟩
  · intro place content file counts
    rw [categorize, spelled file] at counts
    constructor
    · intro watched overlooks
      exact overlooks.not_isWatched tree settings tree' file watched
    · exact isWatched_of_not_overlooks tree settings tree' file counts
  · intro place content file overlooks
    obtain ⟨asks, nothing, -⟩ := overlooks.nothing_read tree settings tree' file
    refine ⟨?_, asks, nothing⟩
    rw [categorize, spelled file, categoryOf]
    exact if_pos overlooks.settings

/-- A project whose settings file is beside its root. -/
def besideRoot : FileSystem where
  entries := [([.ofString "w"], .directory),
    ([.ofString "w", .ofString "quire.toml"], .file "".toByteArray),
    ([.ofString "w", .ofString "site"], .directory),
    ([.ofString "w", .ofString "site", .ofString "a.txt"], .file "x".toByteArray)]
  workingDirectory := [.ofString "w"]

/-- Watch its document, with the settings file spelled in some way. -/
def besideRootWith (config : String) : CommandLine :=
  { root := some (.ofString "/w/site"), config := .ofString config, command := .watch ["a"] [] }

/-- The settings file is watched, but not if a separator is written at its end. -/
theorem isWatched_besideRoot :
    let file := Path.ofRootNames [.ofString "w", .ofString "quire.toml"]
    (∃ config, load besideRoot (besideRootWith "/w/quire.toml") = .ok config
        ∧ IsWatched (config.watchTargets besideRoot) file)
      ∧ ∃ config, load besideRoot (besideRootWith "/w/quire.toml/") = .ok config
        ∧ config.categorize besideRoot file = .settings
        ∧ ¬ IsWatched (config.watchTargets besideRoot) file := by
  intro file
  have tree : besideRoot.IsTree := by decide +kernel
  have isFile : besideRoot.file? [.ofString "w", .ofString "quire.toml"]
      = some "".toByteArray := by decide +kernel
  have paths : ∀ ending ∈ ["", "/"],
      (load besideRoot (besideRootWith ("/w/quire.toml" ++ ending))).toOption.any fun config =>
        config.build.root = .ofString "/w/site"
          ∧ config.configPath = .ofString ("/w/quire.toml" ++ ending) := by
    decide +kernel
  obtain ⟨config, settings, root, configPath⟩ := exists_ok_of_any (paths "" (by simp))
  obtain ⟨config', settings', root', configPath'⟩ := exists_ok_of_any (paths "/" (by simp))
  obtain ⟨told, -⟩ := isWatched_iff_not_overlooks tree tree settings
  obtain ⟨told', counts', -⟩ := isWatched_iff_not_overlooks tree tree settings'
  have overlooks : config'.Overlooks [.ofString "w", .ofString "quire.toml"] :=
    ⟨by rw [configPath']; decide +kernel, by rw [configPath']; decide +kernel,
      by rw [root']; decide +kernel⟩
  obtain ⟨isSettings, -⟩ := counts' _ _ isFile overlooks
  refine ⟨⟨config, settings, (told _ _ isFile ?_).mpr fun overlooks => ?_⟩,
    config', settings', isSettings, fun watched => ?_⟩
  · have isSettings : file.equiv config.configPath := by rw [configPath]; decide +kernel
    have spelled : besideRoot.absolute file = file := by decide +kernel
    rw [categorize, spelled, categoryOf, if_pos isSettings]
    decide
  · have asks := overlooks.asks
    rw [configPath] at asks
    exact absurd asks (by decide +kernel)
  · exact (told' _ _ isFile (by rw [isSettings]; decide)).mp watched overlooks

end Config

end Folio
