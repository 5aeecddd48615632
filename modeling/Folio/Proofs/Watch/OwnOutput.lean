import Folio.Proofs.Watch.Consistency
import Folio.Proofs.Watch.Render

/-!
# What a watch has written itself

The targets that a session writes are seen as changes like any others. They ask for nothing if they
count as output, and a path counts as output if its components begin with those of the output
directory as it is spelled. A changed file is spelled by its place, so this comes down to the spelling
of the output directory: without a step upwards, every target counts as output; with one, no target
does, and those below the root ask for something. The spelling was fixed when the settings were
loaded, and keeps a step upwards if there was nothing at its end.

Main definitions:
- `Config.spelledOutput`: the output directory as it is asked for
- `Session.HasWritten`: the targets that rendering documents writes
- `Session.IsOwn`: a change that is one of them

Main statements:
- `Config.isPlain_output_iff`: when loading leaves no step upwards
- `Plan.isEmpty_ofPaths_iff`: when a batch asks for nothing
- `Session.isEmpty_ofPaths_of_isOwn`: when a session does not react to itself
-/

namespace Folio

/-! ## Section 1: The spelling of the output directory -/

namespace FileSystem

/-- An absolute path has no step upwards left if something is there, or if it had none. -/
theorem IsTree.isPlain_absolute_iff {fs : FileSystem} (tree : fs.IsTree) {p : Path}
    (absolute : p.isAbsolute) :
    (fs.absolute p).IsPlain ↔ fs.pathExists p ∨ Component.parent ∉ p.steps := by
  rcases fs.absolute_of_isAbsolute absolute with ⟨place, entry, found, spelled⟩ | ⟨⟨e, none⟩, same⟩
  · have valid := tree.valid_of_isEntry (find_eq_ok_iff.mp found).2.1
    have plain := Path.isPlain_ofRootNames fun name mem => (valid name mem).toIsSegment
    simp [spelled, plain, pathExists, found]
  · have missing : fs.pathExists p = false := by simp [pathExists, none]
    rw [same, missing]
    exact ⟨fun plain => .inr plain.downwards, fun h => ⟨absolute, h.resolve_left (by simp)⟩⟩

end FileSystem

/-- The place of a path is spelled by names. -/
theorem Path.isSegment_of_mem_place {p : Path} (absolute : p.isAbsolute) {name : Name}
    (h : name ∈ p.place) : name.IsSegment := by
  -- each step adds a name, or takes the last one away
  have walked (steps : List Component)
      (known : ∀ step ∈ steps, step = .parent ∨ ∃ name, step = .normal name ∧ name.IsSegment)
      (place : Place) (valid : ∀ name ∈ place, name.IsSegment) :
      ∀ name ∈ steps.foldl Component.walk place, name.IsSegment := by
    induction steps generalizing place with
    | nil => exact valid
    | cons step rest ih =>
      refine ih (fun step mem => known step (List.mem_cons_of_mem _ mem)) _ fun name mem => ?_
      rcases known step List.mem_cons_self with rfl | ⟨last, rfl, segment⟩
      · exact valid name (List.mem_of_mem_dropLast mem)
      · rcases List.mem_append.mp mem with mem | mem
        · exact valid name mem
        · exact List.mem_singleton.mp mem ▸ segment
  rw [place_of_isAbsolute absolute] at h
  exact walked p.steps (fun _ => mem_steps) [] (by simp) name h

namespace Config

/-- The output directory as it is asked for, seen from the root of the project. -/
def spelledOutput (fs : FileSystem) (commandLine : CommandLine) (read : Config) : Path :=
  (fs.absolute (projectRoot commandLine)).join (override commandLine.command read).build.output

/-- Loading settings leaves no step upwards in the output directory if it is there already, or if it
is asked for without one. -/
theorem isPlain_output_iff {fs : FileSystem} (tree : fs.IsTree) {commandLine : CommandLine}
    {config : Config} (settings : load fs commandLine = .ok config) :
    ∃ read, readSettings fs commandLine = .ok read
      ∧ (config.build.output.IsPlain ↔ fs.pathExists (spelledOutput fs commandLine read)
        ∨ Component.parent ∉ (spelledOutput fs commandLine read).steps) := by
  rw [load_eq] at settings
  split at settings
  · cases settings
  · rename_i read isRead
    split at settings
    · cases settings
    · obtain rfl := Except.ok.inj settings
      refine ⟨read, isRead, ?_⟩
      exact tree.isPlain_absolute_iff (Path.isAbsolute_join (fs.isAbsolute_absolute _) _)

/-! ## Section 2: What asks for nothing -/

variable {config : Config} {place : Place}

/-- A file that is neither the settings nor a program asks for nothing just if it counts as output
or is not below the root. -/
theorem categoryOf_eq_unknown_iff (resolved : config.IsResolved)
    (valid : ∀ name ∈ place, name.IsSegment)
    (noSettings : ¬ (Path.ofRootNames place).equiv config.configPath)
    (noProgram : ∀ script ∈ config.compilers.scripts, ¬ script.program.equiv (.ofRootNames place)) :
    config.categoryOf (.ofRootNames place) = .unknown
      ↔ (Path.ofRootNames place).startsWith config.build.output
        ∨ ¬ (Path.ofRootNames place).startsWith config.build.root := by
  -- the layouts and the partials are below the root
  have belowRoot (directory : Path) (mem : directory ∈ [config.build.layouts, config.build.includes])
      (below : (Path.ofRootNames place).startsWith (config.build.root.join directory)) :
      (Path.ofRootNames place).startsWith config.build.root := by
    obtain ⟨relative, downwards⟩ := Path.staysBelow_iff (resolved.staysBelow mem)
    have plain := resolved.isPlain_root.join relative downwards
    have inside := ((Path.startsWith_ofRootNames valid plain.absolute).mp below).2
    rw [Path.place_join resolved.isPlain_root.absolute relative downwards] at inside
    exact (Path.startsWith_ofRootNames valid resolved.isPlain_root.absolute).mpr
      ⟨resolved.isPlain_root, (List.prefix_append ..).trans inside⟩
  have noProgram' : ¬ config.compilers.scripts.any
      fun script => script.program.equiv (.ofRootNames place) := by
    simpa using noProgram
  unfold categoryOf
  dsimp only
  rw [if_neg noSettings, if_neg noProgram']
  -- the output is asked for first, then what is below the root, part by part
  split
  · rename_i output
    simp [output]
  · rename_i notOutput
    rw [or_iff_right notOutput]
    split
    · rename_i layout
      simp [belowRoot _ (by simp) layout]
    · split
      · rename_i partials
        simp [belowRoot _ (by simp) partials]
      · split
        · rename_i inRoot
          simp [inRoot]
        · rename_i outside
          simp [outside]

end Config

/-- A batch asks for nothing if none of its files means anything. -/
theorem Plan.isEmpty_ofPaths_iff {fs : FileSystem} {config : Config} {paths : List Path} :
    (ofPaths fs config paths).isEmpty ↔ ∀ path ∈ paths, config.categorize fs path = .unknown := by
  have each (path : Path) : config.categorize fs path = .unknown
      ↔ ¬ (config.categorize fs path).affectsAll ∧ config.categorize fs path ≠ .content := by
    cases config.categorize fs path <;> simp [Category.affectsAll]
  simp only [each, forall_and]
  simp [isEmpty, ofPaths_eq]

/-! ## Section 3: Targets that a session writes -/

namespace Session

variable {R : Type} {language : ScriptLanguage R} {session : Session R}
  {w : Workspace (Registry R)} {documents : List String} {place : Place}

/-- Rendering documents, one after the other, writes to a place: in its turn, a document had a file
and was rendered, and its target is there. -/
inductive HasWritten (language : ScriptLanguage R) (session : Session R) :
    Workspace (Registry R) → List String → Place → Prop where
  | now {w w' : Workspace (Registry R)} {logical : String} {rest : List String} {source : Path}
      (isSource : session.source? w.fs logical = some source)
      (rendered : (renderDocument (session.renderer.pipeline language) session.config.build.output
        session.vars logical).runFrom w = (.ok (), w')) :
      HasWritten language session w (logical :: rest) (session.target source).place
  | later {w : Workspace (Registry R)} {logical : String} {rest : List String} {place : Place}
      (more : HasWritten language session ((renderDocument (session.renderer.pipeline language)
        session.config.build.output session.vars logical).runFrom w).2 rest place) :
      HasWritten language session w (logical :: rest) place

/-- What is written is spelled by names below the output directory, wherever documents are said to
be. -/
theorem HasWritten.valid_below (absolute : session.config.build.output.isAbsolute)
    (written : HasWritten language session w documents place) :
    (∀ name ∈ place, name.IsSegment) ∧ session.config.build.output.place <+: place := by
  induction written with
  | @now w w' logical rest source isSource rendered =>
    obtain ⟨source', isSource', render⟩ := renderDocument_eq_ok rendered
    obtain rfl : source = source' := Option.some.inj (isSource.symm.trans isSource')
    have relative : source.isAbsolute = false :=
      Path.isAbsolute_of_mem_candidates (Resources.mem_candidates_of_resolve isSource).1
    -- a document that is rendered is named without steps upwards
    obtain ⟨page, w₁, drawn, -⟩ := Step.runFrom_bind_eq_ok render
    obtain ⟨compilers, rendering, -⟩ := Work.render_eq_ok drawn
    obtain ⟨isAbsolute, steps, -⟩ := Path.steps_targetIn_of_cleaned absolute relative
      (cleaned_of_renderPath rendering)
    refine ⟨fun name mem => Path.isSegment_of_mem_place isAbsolute mem, ?_⟩
    rw [target, Path.place_of_isAbsolute isAbsolute, steps, List.foldl_append,
      Path.foldl_walk_normal, ← Path.place_of_isAbsolute absolute]
    exact List.prefix_append ..
  | later more ih => exact ih

/-- A change that a session has made itself: a target that it has written, and neither the settings
file nor a program of a script. -/
structure IsOwn (language : ScriptLanguage R) (session : Session R) (w : Workspace (Registry R))
    (documents : List String) (later : FileSystem) (path : Path) : Prop where
  written : ∃ place, HasWritten language session w documents place
    ∧ later.absolute path = .ofRootNames place
  noSettings : ¬ (later.absolute path).equiv session.config.configPath
  noProgram : ∀ script ∈ session.config.compilers.scripts,
    ¬ script.program.equiv (later.absolute path)

/-- A change that a session has made itself asks for nothing just if the output directory is spelled
without a step upwards or the target is not below the root. -/
theorem IsOwn.categorize_eq_unknown_iff (resolved : session.config.IsResolved)
    {later : FileSystem} {path : Path} (own : session.IsOwn language w documents later path) :
    session.config.categorize later path = .unknown
      ↔ session.config.build.output.IsPlain
        ∨ ¬ (later.absolute path).startsWith session.config.build.root := by
  obtain ⟨⟨place, written, spelled⟩, noSettings, noProgram⟩ := own
  rw [spelled] at noSettings noProgram
  obtain ⟨valid, below⟩ := written.valid_below resolved.output
  rw [Config.categorize, spelled,
    Config.categoryOf_eq_unknown_iff resolved valid noSettings noProgram,
    Path.startsWith_ofRootNames valid resolved.output, and_iff_left below]

/-! ## Section 4: Changes that ask for nothing -/

/-- Whatever documents a session renders, a batch of targets that it has written asks for nothing, and
so does nothing, just if the output directory is spelled without a step upwards or none of these
targets is below the root. The output directory is spelled with one only if it was asked for with one
and nothing was there when the settings were loaded. -/
theorem isEmpty_ofPaths_of_isOwn {loaded later : FileSystem} (tree : loaded.IsTree)
    (settings : Config.load loaded session.commandLine = .ok session.config)
    (w : Workspace (Registry R)) (documents : List String) {paths : List Path}
    (own : ∀ path ∈ paths, session.IsOwn language w documents later path) :
    ((Plan.ofPaths later session.config paths).isEmpty
        ↔ session.config.build.output.IsPlain
          ∨ ∀ path ∈ paths, ¬ (later.absolute path).startsWith session.config.build.root)
      ∧ (∃ read, Config.readSettings loaded session.commandLine = .ok read
        ∧ (session.config.build.output.IsPlain
          ↔ loaded.pathExists (Config.spelledOutput loaded session.commandLine read)
            ∨ Component.parent ∉ (Config.spelledOutput loaded session.commandLine read).steps))
      ∧ ∀ state : State R, state.session.config = session.config → state.fs = later →
        (Plan.ofPaths later session.config paths).isEmpty →
          handleChanges language paths state = state := by
  have resolved := Config.load_isResolved tree settings
  refine ⟨?_, Config.isPlain_output_iff tree settings, fun state sameConfig sameFiles empty => ?_⟩
  · rw [Plan.isEmpty_ofPaths_iff]
    constructor
    · intro nothing
      by_cases plain : session.config.build.output.IsPlain
      · exact .inl plain
      · exact .inr fun path mem =>
          (((own path mem).categorize_eq_unknown_iff resolved).mp (nothing path mem)).resolve_left plain
    · intro told path mem
      exact ((own path mem).categorize_eq_unknown_iff resolved).mpr (told.imp_right fun h => h path mem)
  · rw [← sameConfig, ← sameFiles] at empty
    exact if_pos empty

/-- A project that asks for an output directory that is not there yet. -/
def unbuilt (output : String) : FileSystem where
  entries := [([.ofString "w"], .directory),
    ([.ofString "w", .ofString "a.txt"], .file "x".toByteArray),
    ([.ofString "w", .ofString "quire.toml"],
      .file ("[build]\noutput = \"" ++ output ++ "\"\n").toByteArray)]
  workingDirectory := [.ofString "w"]

/-- The files of this project after its document has been rendered. -/
def built (output : String) : Workspace (Registry Unit) :=
  (renderDocuments (renderDocument (defaultRenderer.pipeline .none) (.ofString ("/w/" ++ output))
    .empty) { fs := unbuilt output, compilers := defaultRenderer.registry } ["a"]).2

/-- A session with some settings. -/
def awaiting (config : Config) : Session Unit := { defaultSession with config }

/-- The settings of this project. -/
structure IsUnbuilt (output : String) (config : Config) : Prop where
  settings : Config.load (unbuilt output) (awaiting config).commandLine = .ok (awaiting config).config
  build : config.build = { defaultConfig.build with output := .ofString ("/w/" ++ output) }
  configPath : config.configPath = defaultConfig.configPath
  scripts : config.compilers.scripts = []

section Unbuilt

variable {output : String} (listed : output ∈ ["./public", "b/../public"])

include listed

theorem exists_isUnbuilt : ∃ config, IsUnbuilt output config := by
  have asked : ∀ output ∈ ["./public", "b/../public"],
      (Config.load (unbuilt output) defaultSession.commandLine).toOption.any fun config =>
        config.build = { defaultConfig.build with output := .ofString ("/w/" ++ output) }
          ∧ config.configPath = defaultConfig.configPath ∧ config.compilers.scripts = [] := by
    decide +kernel
  obtain ⟨config, settings, build, configPath, scripts⟩ := exists_ok_of_any (asked output listed)
  exact ⟨config, settings, build, configPath, scripts⟩

theorem IsUnbuilt.isOwn {config : Config} (unbuilt : IsUnbuilt output config) :
    (awaiting config).IsOwn .none
      { fs := Session.unbuilt output, compilers := defaultRenderer.registry } ["a"] (built output).fs
      (.ofString "/w/public/a.html") := by
  have spelled : ∀ output ∈ ["./public", "b/../public"],
      (built output).fs.absolute (.ofString "/w/public/a.html")
        = .ofRootNames ((Path.ofString ("/w/" ++ output)).targetIn (.ofString "a.txt")).place := by
    decide +kernel
  have isSource : ∀ output ∈ ["./public", "b/../public"],
      defaultSession.source? (Session.unbuilt output) "a" = some (.ofString "a.txt") := by
    decide +kernel
  have rendered : ∀ output ∈ ["./public", "b/../public"],
      ((renderDocument (defaultRenderer.pipeline .none) (.ofString ("/w/" ++ output)) .empty
        "a").runFrom { fs := Session.unbuilt output, compilers := defaultRenderer.registry }).1
        = .ok () := by
    decide +kernel
  have noSettings : ∀ output ∈ ["./public", "b/../public"],
      ¬ ((built output).fs.absolute (.ofString "/w/public/a.html")).equiv
        defaultConfig.configPath := by
    decide +kernel
  refine ⟨⟨_, .now (isSource output listed) (Prod.ext ?_ rfl), ?_⟩, ?_, ?_⟩
  · rw [awaiting, unbuilt.build]
    exact rendered output listed
  · rw [target, awaiting, unbuilt.build]
    exact spelled output listed
  · rw [awaiting, unbuilt.configPath]
    exact noSettings output listed
  · simp [awaiting, unbuilt.scripts]

end Unbuilt

/-- The page of a document, written to the same place. If the settings ask for the output directory
with a step upwards, the page is taken for a document. -/
theorem isEmpty_ofPaths_unbuilt :
    let pages := [Path.ofString "/w/public/a.html"]
    (∃ config, IsUnbuilt "./public" config ∧ ∀ state : State Unit,
        state.session.config = config → state.fs = (built "./public").fs →
          handleChanges .none pages state = state)
      ∧ ∃ config, IsUnbuilt "b/../public" config
        ∧ ¬ (Plan.ofPaths (built "b/../public").fs config pages).isEmpty := by
  intro pages
  have tree : ∀ output ∈ ["./public", "b/../public"], (unbuilt output).IsTree := by decide +kernel
  have dots : "./public" ∈ ["./public", "b/../public"] := by simp
  have upwards : "b/../public" ∈ ["./public", "b/../public"] := by simp
  obtain ⟨config, isUnbuilt⟩ := exists_isUnbuilt dots
  obtain ⟨config', isUnbuilt'⟩ := exists_isUnbuilt upwards
  obtain ⟨told, -, nothing⟩ := isEmpty_ofPaths_of_isOwn (tree _ dots) isUnbuilt.settings _ _
    (List.forall_mem_singleton.mpr (isUnbuilt.isOwn dots))
  obtain ⟨told', -⟩ := isEmpty_ofPaths_of_isOwn (tree _ upwards) isUnbuilt'.settings _ _
    (List.forall_mem_singleton.mpr (isUnbuilt'.isOwn upwards))
  refine ⟨⟨config, isUnbuilt, fun state sameConfig sameFiles => ?_⟩, config', isUnbuilt', ?_⟩
  · refine nothing state sameConfig sameFiles (told.mpr (.inl ?_))
    rw [awaiting, isUnbuilt.build]
    exact ⟨by decide +kernel, by decide +kernel⟩
  · refine fun empty => (told'.mp empty).elim (fun plain => ?_) fun outside => ?_
    · rw [awaiting, isUnbuilt'.build] at plain
      exact absurd plain.downwards (by decide +kernel)
    · refine outside _ (List.mem_singleton_self _) ?_
      rw [awaiting, isUnbuilt'.build]
      decide +kernel

end Session

end Folio
