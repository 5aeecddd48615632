import Folio.Proofs.Renderer.Outline
import Folio.Proofs.Watch.UpToDate
import Folio.Watch.Loop

/-!
# Settings and renderer stay together

A session holds settings and a renderer, and both are replaced when the settings are read anew. The
renderer is at all times one for the settings, apart from the runtimes of scripts. If reading anew
fails, both stay, and so do all files.

Main definitions:
- `Session.IsConsistent`: the renderer of a session is one for its settings, which have been loaded
- `Session.Reached`: the states that a session gets into
- `Session.ReloadFails`: how reading the settings anew can fail

Main statements:
- `Session.Reached.isConsistent`: what all these states have in common
- `Session.reloadConfig_fails_iff`: there is no other way to fail
- `Session.consistent_of_reached`: settings and renderer never drift apart
-/

namespace Folio.Session

open Config (settingsFile readSettings readSettings_eq_error_iff)

variable {R : Type} {language : ScriptLanguage R} {fs : FileSystem} {session : Session R}
  {state : State R} {plan : Plan}

/-! ## Section 1: Consistency -/

/-- The settings of a session have been loaded for its command line, a renderer has been made from
them, and the renderer of the session is like that one but for the runtimes of scripts. -/
structure IsConsistent (language : ScriptLanguage R) (session : Session R) : Prop where
  loaded : ∃ fs, Config.load fs session.commandLine = .ok session.config
  made : ∃ fs renderer, Renderer.ofConfig language fs session.config = .ok renderer
  outline : session.renderer.outline = session.config.outline

/-- A session over settings and compilers that have been loaded. -/
theorem IsConsistent.of_load {loaded compiled : FileSystem} {commandLine : CommandLine}
    {config : Config} {renderer : Renderer R}
    (settings : Config.load loaded commandLine = .ok config)
    (compilers : Renderer.ofConfig language compiled config = .ok renderer)
    (documents : List String) (vars : Variables) :
    ({ commandLine, config, renderer, documents, vars } : Session R).IsConsistent language where
  loaded := ⟨loaded, settings⟩
  made := ⟨compiled, renderer, compilers⟩
  outline := Renderer.outline_of_ofConfig compilers

/-- Other runtimes make no difference. -/
theorem IsConsistent.withRegistry (consistent : session.IsConsistent language)
    {registry : Registry R} (same : registry.outline = session.renderer.registry.outline) :
    (session.withRegistry registry).IsConsistent language where
  loaded := consistent.loaded
  made := consistent.made
  outline := by
    refine Eq.trans ?_ consistent.outline
    simp only [Session.withRegistry, Renderer.outline, same]

/-! ## Section 2: What a batch does to a session -/

/-- Reading anew leads to a session that is consistent, whatever fails. -/
theorem IsConsistent.reloaded (consistent : session.IsConsistent language) :
    (session.reloaded language fs plan).IsConsistent language := by
  unfold Session.reloaded reload
  dsimp only
  split
  · -- the settings and the renderer for them, or neither
    split
    · exact consistent
    · rename_i session' reloading
      obtain ⟨config, renderer, settings, compilers, rfl⟩ := reloadConfig_eq_ok reloading
      exact .of_load settings compilers ..
  · split
    · -- the runtimes of scripts, up to the first that fails
      have runtimes := consistent.withRegistry
        (session.renderer.registry.outline_reloadScripts language fs)
      split <;> exact runtimes
    · exact consistent

theorem outline_renderDocuments {output : Path} {vars : Variables} (logicals : List String)
    (renderer : Renderer R) (w : Workspace (Registry R)) :
    (renderDocuments (renderDocument (renderer.pipeline language) output vars) w
      logicals).2.compilers.outline = w.compilers.outline := by
  -- on the documents, each of which leaves the outline, whether it is rendered or fails
  induction logicals generalizing w with
  | nil => rfl
  | cons logical rest ih =>
    have first : Step.Keeps (fun w' => w'.compilers.outline = w.compilers.outline)
        (renderDocument (renderer.pipeline language) output vars logical) := by
      intro w' same
      unfold renderDocument
      rw [Step.runFrom_get_bind]
      split
      · exact same
      · exact keeps_renderTo (P := fun registry => registry.outline = w.compilers.outline)
          (fun fs => renderer.compilersKeep_outline fs _) _ _ _ w' same
    have after := first w rfl
    unfold renderDocuments
    cases run : (renderDocument (renderer.pipeline language) output vars logical).run.run w with
    | mk result w₁ =>
      rw [Step.runFrom, run] at after
      have others := ih w₁
      cases result <;> exact others.trans after

theorem outline_render (documents : List String) (state : State R) :
    (Session.render language documents state).session.renderer.outline
      = state.session.renderer.outline := by
  have registry : (renderDocuments
      (renderDocument (state.session.renderer.pipeline language) state.session.config.build.output
        state.session.vars)
      { fs := state.fs, compilers := state.session.renderer.registry }
      documents).2.compilers.outline = state.session.renderer.registry.outline :=
    outline_renderDocuments documents _ _
  simp only [Renderer.outline, Session.render, registry, State.tell]

/-- Rendering documents, whether it succeeds or fails, leaves a session consistent. -/
theorem IsConsistent.render (consistent : state.session.IsConsistent language)
    (documents : List String) :
    (Session.render language documents state).session.IsConsistent language where
  loaded := consistent.loaded
  made := consistent.made
  outline := (outline_render documents state).trans consistent.outline

/-- A batch of changes leaves a session consistent, whatever fails. -/
theorem IsConsistent.handleChanges (consistent : state.session.IsConsistent language)
    (paths : List Path) :
    (Session.handleChanges language paths state).session.IsConsistent language :=
  handleChanges_keeps consistent (fun _ => consistent.reloaded)
    (fun documents _ read => read.render documents) paths

/-! ## Section 3: All states of a session -/

/-- The states that a session gets into: it begins with settings that have been loaded and a renderer
that has been made from them, and handles batches of changes, each by reading anew and then rendering
documents. Files may change in between, and what has been told does not matter. -/
inductive Reached (language : ScriptLanguage R) : State R → Prop where
  | start {loaded compiled fs : FileSystem} {commandLine : CommandLine} {config : Config}
      {renderer : Renderer R} (settings : Config.load loaded commandLine = .ok config)
      (compilers : Renderer.ofConfig language compiled config = .ok renderer)
      (documents : List String) (vars : Variables) (notices : List Notice) :
      Reached language
        { fs, session := { commandLine, config, renderer, documents, vars }, notices }
  | between {state : State R} (before : Reached language state) (fs : FileSystem)
      (notices : List Notice) :
      Reached language { fs, session := state.session, notices }
  | read {state : State R} (before : Reached language state) (plan : Plan) :
      Reached language (reload language plan state).2
  | rendered {state : State R} (before : Reached language state) (documents : List String) :
      Reached language (render language documents state)
  | handled {state : State R} (before : Reached language state) (paths : List Path) :
      Reached language (handleChanges language paths state)

theorem Reached.isConsistent (reached : Reached language state) :
    state.session.IsConsistent language := by
  induction reached with
  | start settings compilers documents vars notices => exact .of_load settings compilers ..
  | between before fs notices ih => exact ih
  | @read state before plan ih =>
    obtain ⟨more, same, -⟩ := reload_eq language plan state.fs state.session state.notices
    rw [show reload language plan state = _ from same]
    exact ih.reloaded
  | rendered before documents ih => exact ih.render documents
  | handled before paths ih => exact ih.handleChanges paths

/-- A watch goes on with states that its session gets into. -/
theorem Reached.run {watch : Watch R} (reached : Reached language watch.state)
    (arrivals : List Arrival) : Reached language (watch.run language arrivals).2.state := by
  induction arrivals generalizing watch with
  | nil => exact reached
  | cons arrival rest ih =>
    have arrived : Reached language (Watch.arrive watch.state arrival) := by
      unfold Watch.arrive
      cases arrival.message <;> exact reached.between _ _
    have turned : Reached language (watch.turn language arrival).2.state := by
      unfold Watch.turn
      dsimp only
      split
      · exact arrived
      · exact arrived.handled _
    exact ih turned

/-! ## Section 4: Settings that cannot be read anew -/

/-- How reading the settings anew can fail: the settings file cannot be read or is malformed, the
settings are refused, or a script that they name cannot be loaded. -/
inductive ReloadFails (language : ScriptLanguage R) (fs : FileSystem) (commandLine : CommandLine) :
    Prop where
  | unreadable {cause : IoError} (present : fs.pathExists (settingsFile commandLine))
      (refused : fs.readText (settingsFile commandLine) = .error cause)
  | malformed {text : String} {e : ConfigError}
      (present : fs.pathExists (settingsFile commandLine))
      (read : fs.readText (settingsFile commandLine) = .ok text)
      (refused : Config.ofText text = .error e)
  | invalid {config : Config} {fault : ConfigFault}
      (read : readSettings fs commandLine = .ok config)
      (refused : (config.update fs commandLine).check fs = .error fault)
  | script {config : Config} {e : CompileError}
      (settings : Config.load fs commandLine = .ok config)
      (refused : Renderer.ofConfig language fs config = .error e)

/-- Reading the settings anew fails in these ways alone. -/
theorem reloadConfig_fails_iff :
    (∃ why, session.reloadConfig language fs = .error why)
      ↔ ReloadFails language fs session.commandLine := by
  have stages := Config.load_eq fs session.commandLine
  constructor
  · rintro ⟨why, failed⟩
    unfold reloadConfig at failed
    split at failed
    · -- loading fails before a renderer is made
      rename_i e refused
      rw [refused] at stages
      split at stages
      · rename_i e' unread
        obtain ⟨present, ⟨cause, unreadable⟩ | ⟨text, e'', read, malformed⟩⟩ :=
          readSettings_eq_error_iff.mp ⟨e', unread⟩
        · exact .unreadable present unreadable
        · exact .malformed present read malformed
      · rename_i config read
        split at stages
        · exact .invalid read (by assumption)
        · cases stages
    · rename_i config settings
      split at failed
      · exact .script settings (by assumption)
      · cases failed
  · intro fails
    unfold reloadConfig
    cases fails with
    | unreadable present refused =>
      obtain ⟨e, unread⟩ := readSettings_eq_error_iff.mpr ⟨present, .inl ⟨_, refused⟩⟩
      simp [stages, unread]
    | malformed present read refused =>
      obtain ⟨e, unread⟩ := readSettings_eq_error_iff.mpr ⟨present, .inr ⟨_, _, read, refused⟩⟩
      simp [stages, unread]
    | invalid read refused => simp [stages, read, refused]
    | script settings refused => simp [settings, refused]

/-- A batch that asks for the settings asks for something. -/
theorem not_isEmpty_of_reloadConfig {config : Config} {paths : List Path}
    (asked : (Plan.ofPaths fs config paths).reloadConfig) :
    ¬ (Plan.ofPaths fs config paths).isEmpty := by
  simp [Plan.isEmpty, Plan.renderAll_of_reload (.inl asked)]

/-- If the settings cannot be read anew, a batch that asks for it does nothing but say so. -/
theorem handleChanges_of_reloadFails {paths : List Path}
    (asked : (Plan.ofPaths state.fs state.session.config paths).reloadConfig)
    (fails : ReloadFails language state.fs state.session.commandLine) :
    (handleChanges language paths state).session = state.session
      ∧ (handleChanges language paths state).fs = state.fs
      ∧ ∃ why, .failure "config reload failed" why ∈ (handleChanges language paths state).notices := by
  obtain ⟨why, failed⟩ := reloadConfig_fails_iff.mpr fails
  unfold handleChanges
  rw [if_neg (not_isEmpty_of_reloadConfig asked)]
  simp [reload, asked, failed, State.tell]

/-- If they can, the session goes on with them and with a renderer for them, whatever becomes of the
documents. -/
theorem handleChanges_of_reloads {paths : List Path} {config : Config} {renderer : Renderer R}
    (asked : (Plan.ofPaths state.fs state.session.config paths).reloadConfig)
    (settings : Config.load state.fs state.session.commandLine = .ok config)
    (compilers : Renderer.ofConfig language state.fs config = .ok renderer) :
    (handleChanges language paths state).session.config = config
      ∧ (handleChanges language paths state).session.renderer.outline = renderer.outline := by
  have reloading : state.session.reloadConfig language state.fs
      = .ok { state.session with config, renderer } := by
    simp [reloadConfig, settings, compilers]
  have all := Plan.renderAll_of_reload (.inl asked)
  unfold handleChanges
  rw [if_neg (not_isEmpty_of_reloadConfig asked)]
  simp only [reload, asked, if_true, State.tell, reloading, Bool.not_true, Bool.false_eq_true,
    if_false, all]
  exact ⟨rfl, outline_render ..⟩

/-! ## Section 5: Settings and renderer -/

/-- At every moment, the settings of a session have been loaded, and its renderer is, but for the
runtimes of scripts, any renderer that is made from them. When they are to be read anew, both are
replaced; if that is not possible, nothing changes. -/
theorem consistent_of_reached (reached : Reached language state) :
    (∃ fs, Config.load fs state.session.commandLine = .ok state.session.config)
      ∧ (∃ fs renderer, Renderer.ofConfig language fs state.session.config = .ok renderer)
      ∧ (∀ fs renderer, Renderer.ofConfig language fs state.session.config = .ok renderer →
        state.session.renderer.outline = renderer.outline)
      ∧ ∀ paths, (Plan.ofPaths state.fs state.session.config paths).reloadConfig →
        let after := handleChanges language paths state
        (∀ config renderer, Config.load state.fs state.session.commandLine = .ok config →
          Renderer.ofConfig language state.fs config = .ok renderer →
          after.session.config = config ∧ after.session.renderer.outline = renderer.outline)
        ∧ (ReloadFails language state.fs state.session.commandLine →
          after.session = state.session ∧ after.fs = state.fs
            ∧ ∃ why, .failure "config reload failed" why ∈ after.notices) := by
  obtain ⟨loaded, made, outline⟩ := reached.isConsistent
  refine ⟨loaded, made, fun fs renderer compilers => ?_, fun paths asked =>
    ⟨fun config renderer => handleChanges_of_reloads asked, handleChanges_of_reloadFails asked⟩⟩
  rw [outline, Renderer.outline_of_ofConfig compilers]

/-- A language whose programs convert every text to the number of earlier runs. -/
def countingLanguage : ScriptLanguage Nat where
  load _ _ := some 0
  setGlobal _ _ := pure ()
  call := do
    let runs ← get
    set (runs + 1)
    return some (toString runs)
  globalText? _ := pure none

/-- A watch of a document in a project without settings. -/
def unsettled : State Nat where
  fs :=
    { entries := [([.ofString "w"], .directory),
        ([.ofString "w", .ofString "a.txt"], .file "x".toByteArray)]
      workingDirectory := [.ofString "w"] }
  session :=
    { commandLine := { config := .ofString "quire.toml", command := .watch ["a"] [] }
      config := defaultConfig
      renderer := { defaultRenderer with registry := Registry.withDefaults }
      documents := ["a"]
      vars := .empty }

/-- A watch whose settings file has changed. -/
def settle (state : State Nat) (settings : String) : State Nat :=
  { state with
    fs := state.fs.set [.ofString "w", .ofString "quire.toml"] (.file settings.toByteArray) }

/-- The watch after its settings have come to name a script, which has run once. -/
def scripted : State Nat :=
  handleChanges countingLanguage [.ofString "/w/quire.toml"] (settle unsettled
    "[[compilers.script]]\nname = \"s\"\nextensions = [\"txt\"]\nprogram = \"a.txt\"\n")

theorem reached_unsettled : Reached countingLanguage unsettled := by
  have settings : Config.load unsettled.fs unsettled.session.commandLine = .ok defaultConfig := by
    rfl
  have compilers : Renderer.ofConfig countingLanguage unsettled.fs defaultConfig
      = .ok unsettled.session.renderer := by
    rfl
  exact .start settings compilers ["a"] .empty []

theorem Reached.settle {state : State Nat} (reached : Reached countingLanguage state)
    (settings : String) : Reached countingLanguage (Session.settle state settings) :=
  reached.between (Session.settle state settings).fs state.notices

theorem reached_scripted : Reached countingLanguage scripted := by
  unfold scripted
  exact (reached_unsettled.settle _).handled _

/-- Settings that come to name a script, and then become malformed: the script stays as its run has
left it. -/
theorem consistent_malformed :
    let state := settle scripted "["
    let after := handleChanges countingLanguage [.ofString "/w/quire.toml"] state
    Reached countingLanguage state
      ∧ state.session.renderer.registry.scripts.map (fun script => (script.name, script.runtime))
        = [("s", 1)]
      ∧ (∃ fs renderer, Renderer.ofConfig countingLanguage fs state.session.config = .ok renderer
        ∧ state.session.renderer.outline = renderer.outline)
      ∧ after.fs = state.fs ∧ after.session = state.session := by
  intro state after
  -- the first batch read the settings with the script, and rendered the document with it
  have reached : Reached countingLanguage state := reached_scripted.settle "["
  have asked : (Plan.ofPaths state.fs state.session.config
      [.ofString "/w/quire.toml"]).reloadConfig := by decide +kernel
  have fails : ReloadFails countingLanguage state.fs state.session.commandLine :=
    have malformed : Config.ofText "[" = .error .malformed := by rfl
    .malformed (by decide +kernel) (by decide +kernel) malformed
  obtain ⟨-, ⟨fs, renderer, made⟩, outline, unchanged⟩ := consistent_of_reached reached
  obtain ⟨session, files, -⟩ := (unchanged _ asked).2 fails
  exact ⟨reached, by decide +kernel, ⟨fs, renderer, made, outline fs renderer made⟩, files, session⟩

end Folio.Session
