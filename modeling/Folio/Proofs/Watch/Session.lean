import Folio.Proofs.Build.Documents
import Folio.Proofs.Watch.Plan
import Folio.Watch.Session

/-!
# What handling changes does

A session stays one whose renderer follows loaded settings. A batch of changes that is handled without
a failure renders the documents that are due, each to the page that it has on the files as they were
when the batch came.

Main definitions:
- `Session.IsLoaded`: the renderer of a session follows its settings
- `Session.source?`: the file of a document
- `Session.reloaded`: a session after what a plan says has been read anew
- `Session.IsDue`: what is rendered for a plan
- `Session.Separate`: targets that no rendering reads

Main statements:
- `Session.IsLoaded.handleChanges`: what every batch preserves
- `Session.handleChanges_steps`: what a batch without a failure does
- `Session.rendered_of_handleChanges`: what it leaves
-/

namespace Folio

/-- Whether a notice is of a failure. -/
def Notice.isFailure : Notice → Bool
  | .failure _ _ => true
  | .log _ _ | .success _ | .detach => false

namespace Session

variable {R : Type} {language : ScriptLanguage R} {session : Session R} {fs fs' : FileSystem}
  {plan : Plan} {logical : String} {source : Path}

/-! ## Section 1: Documents and their targets -/

/-- The file of a document. -/
def source? (session : Session R) (fs : FileSystem) (logical : String) : Option Path :=
  (Resources.disk fs session.renderer.root).resolve (Path.ofString logical)
    session.renderer.extensions

/-- The files of the documents. -/
def sources (session : Session R) (fs : FileSystem) : List Path :=
  session.documents.filterMap (session.source? fs)

/-- The target of a file. -/
def target (session : Session R) (source : Path) : Path :=
  session.config.build.output.targetIn source

/-- The files that a document can be. -/
def candidates (session : Session R) (logical : String) : List Path :=
  (Path.ofString logical).candidates session.renderer.extensions

/-- A session with other compilers. -/
def withRegistry (session : Session R) (registry : Registry R) : Session R :=
  { session with renderer := { session.renderer with registry } }

/-- A session whose renderer follows loaded settings. -/
structure IsLoaded (session : Session R) : Prop where
  resolved : session.config.IsResolved
  follows : session.renderer.Follows session.config

theorem IsLoaded.isPlaced (loaded : session.IsLoaded) : session.renderer.IsPlaced :=
  loaded.follows.isPlaced loaded.resolved

theorem IsLoaded.withRegistry (loaded : session.IsLoaded) (registry : Registry R) :
    (session.withRegistry registry).IsLoaded where
  resolved := loaded.resolved
  follows := ⟨loaded.follows.root, loaded.follows.layouts, loaded.follows.includes,
    loaded.follows.extensions⟩

/-- A session over settings and compilers that have been loaded. -/
theorem IsLoaded.of_load {loaded compiled : FileSystem} {commandLine : CommandLine} {config : Config}
    {renderer : Renderer R} (tree : loaded.IsTree) (settings : Config.load loaded commandLine = .ok config)
    (compilers : Renderer.ofConfig language compiled config = .ok renderer)
    (documents : List String) (vars : Variables) :
    ({ commandLine, config, renderer, documents, vars } : Session R).IsLoaded where
  resolved := Config.load_isResolved tree settings
  follows := Renderer.ofConfig_follows compilers

section Candidates

variable (unbroken : ∀ e ∈ session.renderer.extensions, '/' ∉ e.toList)

include unbroken

theorem isRow_of_mem_candidates {file : Path} (h : file ∈ session.candidates logical) :
    file.IsRow :=
  Path.exists_names_of_mem_candidates unbroken h

theorem isRow_of_source? (h : session.source? fs logical = some source) : source.IsRow :=
  isRow_of_mem_candidates unbroken (Resources.mem_candidates_of_resolve h).1

theorem isRow_of_mem_sources (h : source ∈ session.sources fs) : source.IsRow := by
  obtain ⟨logical, -, isSource⟩ := List.mem_filterMap.mp h
  exact isRow_of_source? unbroken isSource

/-- The file of a document depends on which of the files that it can be there are. -/
theorem source?_congr (loaded : session.IsLoaded) (tree : fs.IsTree) (tree' : fs'.IsTree)
    (same : ∀ file ∈ session.candidates logical,
      fs.file? (session.renderer.root.join file).place
        = fs'.file? (session.renderer.root.join file).place) :
    session.source? fs logical = session.source? fs' logical := by
  refine Resources.resolve_congr fun file mem => ?_
  obtain ⟨names, -, valid, rfl⟩ := isRow_of_mem_candidates unbroken mem
  exact FileSystem.isFile_congr tree tree' (Path.join_ofNames loaded.isPlaced.root valid).1
    (same _ mem)

end Candidates

/-! ## Section 2: Targets that no rendering reads -/

/-- The documents of a session have targets that are told apart, and that are neither layouts nor
partials nor files that a document can be. -/
structure Separate (session : Session R) (fs : FileSystem) : Prop where
  unread : ∀ source ∈ session.sources fs, ¬ session.renderer.Reads (session.target source).place
  noCandidate : ∀ source ∈ session.sources fs, ∀ logical ∈ session.documents,
    ∀ file ∈ session.candidates logical,
      (session.target source).place ≠ (session.renderer.root.join file).place
  distinct : ∀ source ∈ session.sources fs, ∀ other ∈ session.sources fs,
    (session.target source).place = (session.target other).place → source = other

/-- If the output directory is apart from the layouts and partials and no document is named in it,
only different targets are left to ask for. -/
theorem Separate.of_outputApart (loaded : session.IsLoaded)
    (unbroken : ∀ e ∈ session.renderer.extensions, '/' ∉ e.toList)
    (apart : session.config.OutputApart)
    (outside : ∀ logical ∈ session.documents, ∀ file ∈ session.candidates logical,
      ¬ session.config.build.output.place <+: (session.renderer.root.join file).place)
    (distinct : ∀ source ∈ session.sources fs, ∀ other ∈ session.sources fs,
      (session.target source).place = (session.target other).place → source = other) :
    session.Separate fs where
  unread source mem := apart.not_reads_target loaded.resolved.isAbsolute loaded.follows
    (loaded.follows.extensions ▸ unbroken) (isRow_of_mem_sources unbroken mem)
  noCandidate source mem logical isDocument file candidate same := by
    refine outside logical isDocument file candidate ?_
    rw [← same, target, (Config.place_targetIn_of_isRow loaded.resolved.output
      (isRow_of_mem_sources unbroken mem)).1]
    exact List.prefix_append ..
  distinct := distinct

theorem Separate.apart (separate : session.Separate fs)
    (unbroken : ∀ e ∈ session.renderer.extensions, '/' ∉ e.toList) :
    session.renderer.Apart session.config.build.output (session.sources fs) where
  row _ mem := isRow_of_mem_sources unbroken mem
  unread := separate.unread
  noSource source mem other otherMem := by
    obtain ⟨logical, isDocument, isSource⟩ := List.mem_filterMap.mp otherMem
    exact separate.noCandidate source mem logical isDocument other
      (Resources.mem_candidates_of_resolve isSource).1
  distinct := separate.distinct

/-! ## Section 3: Reading anew -/

/-- A session after what a plan says has been read anew. -/
def reloaded (language : ScriptLanguage R) (fs : FileSystem) (plan : Plan) (session : Session R) :
    Session R :=
  (reload language plan { fs, session }).2.session

/-- Whether what a plan says can be read anew. -/
def reloads (language : ScriptLanguage R) (fs : FileSystem) (plan : Plan) (session : Session R) :
    Bool :=
  (reload language plan { fs, session }).1

/-- Reading anew changes the session alone, and says so if it fails. -/
theorem reload_eq (language : ScriptLanguage R) (plan : Plan) (fs : FileSystem)
    (session : Session R) (notices : List Notice) :
    ∃ more, reload language plan { fs, session, notices }
        = (session.reloads language fs plan,
            { fs, session := session.reloaded language fs plan, notices := notices ++ more })
      ∧ (session.reloads language fs plan = false → ∃ notice ∈ more, notice.isFailure) := by
  unfold reloaded reloads reload
  dsimp only
  split
  · cases session.reloadConfig language fs with
    | error why => exact ⟨[.failure "config reload failed" why], rfl, by simp [Notice.isFailure]⟩
    | ok session' => exact ⟨[], by simp, by simp⟩
  · split
    · cases session.reloadScripts language fs with
      | mk result session' =>
        cases result with
        | error e =>
          exact ⟨[.failure "script reload failed" e.message], rfl, by simp [Notice.isFailure]⟩
        | ok done => exact ⟨[], by simp, by simp⟩
    · exact ⟨[], by simp, by simp⟩

/-- If nothing is to be read anew, a session stays as it is. -/
theorem reloaded_of_not (h : ¬ (plan.reloadConfig ∨ plan.reloadScripts)) :
    session.reloaded language fs plan = session := by
  rw [not_or] at h
  rw [reloaded, reload, if_neg h.1, if_neg h.2]

/-- Settings that are read anew come with a renderer that is made from them. -/
theorem reloadConfig_eq_ok {session' : Session R}
    (reloading : session.reloadConfig language fs = .ok session') :
    ∃ config renderer, Config.load fs session.commandLine = .ok config
      ∧ Renderer.ofConfig language fs config = .ok renderer
      ∧ session' = { session with config, renderer } := by
  unfold reloadConfig at reloading
  split at reloading
  · cases reloading
  · rename_i config settings
    split at reloading
    · cases reloading
    · rename_i renderer compilers
      exact ⟨config, renderer, settings, compilers, (Except.ok.inj reloading).symm⟩

/-- A session that reads anew has other compilers, or a renderer for the settings as they are now. -/
theorem reloaded_cases (language : ScriptLanguage R) (fs : FileSystem) (plan : Plan)
    (session : Session R) :
    (∃ registry, session.reloaded language fs plan = session.withRegistry registry)
      ∨ ∃ config renderer, Config.load fs session.commandLine = .ok config
          ∧ Renderer.ofConfig language fs config = .ok renderer
          ∧ session.reloaded language fs plan = { session with config, renderer } := by
  unfold reloaded reload reloadScripts
  dsimp only
  split
  · split
    · exact .inl ⟨session.renderer.registry, rfl⟩
    · exact .inr (reloadConfig_eq_ok (by assumption))
  · left
    split
    · split
      · exact ⟨_, rfl⟩
      · exact ⟨_, rfl⟩
    · exact ⟨session.renderer.registry, rfl⟩

/-- The documents are those of the command line. -/
theorem reloaded_documents : (session.reloaded language fs plan).documents = session.documents := by
  obtain ⟨registry, same⟩ | ⟨config, renderer, -, -, same⟩ := reloaded_cases language fs plan session
  · rw [same, withRegistry]
  · rw [same]

/-- Reading anew leads to a session whose renderer follows its settings. -/
theorem IsLoaded.reloaded (loaded : session.IsLoaded) (tree : fs.IsTree) :
    (session.reloaded language fs plan).IsLoaded := by
  obtain ⟨registry, same⟩ | ⟨config, renderer, settings, compilers, same⟩ :=
    reloaded_cases language fs plan session
  · exact same ▸ loaded.withRegistry registry
  · exact same ▸ .of_load tree settings compilers ..

/-! ## Section 4: Rendering documents -/

/-- A document that is rendered has a file, and it is that file that is rendered. -/
theorem renderDocument_eq_ok {output : Path} {vars : Variables} {w w' : Workspace (Registry R)}
    (h : (renderDocument (session.renderer.pipeline language) output vars logical).runFrom w
      = (.ok (), w')) :
    ∃ source, session.source? w.fs logical = some source
      ∧ (renderTo (session.renderer.pipeline language) source (output.targetIn source) vars).runFrom w
          = (.ok (), w') := by
  unfold renderDocument at h
  rw [Step.runFrom_get_bind] at h
  split at h
  · simp at h
  · rename_i source resolved
    exact ⟨source, resolved, h⟩

/-- If none of the documents failed, each was rendered, one after the other. -/
theorem renderDocuments_cons {render : String → Work (Registry R) DocumentError Unit}
    {rest : List String} {w w' : Workspace (Registry R)}
    (h : renderDocuments render w (logical :: rest) = (none, w')) :
    ∃ w₁, (render logical).runFrom w = (.ok (), w₁) ∧ renderDocuments render w₁ rest = (none, w') := by
  unfold renderDocuments at h
  cases first : (render logical).runFrom w with
  | mk result w₁ =>
    have run : (render logical).run.run w = (result, w₁) := first
    rw [run] at h
    dsimp only at h
    cases result with
    | error e => cases (Prod.mk.inj h).1
    | ok done =>
      refine ⟨w₁, rfl, ?_⟩
      rw [← h]

/-- Without a failure, rendering changes files and compilers alone. -/
theorem render_eq {documents : List String} {state : State R}
    (quiet : ∀ notice ∈ (render language documents state).notices, ¬ notice.isFailure) :
    ∃ w, renderDocuments
        (renderDocument (state.session.renderer.pipeline language)
          state.session.config.build.output state.session.vars)
        { fs := state.fs, compilers := state.session.renderer.registry } documents = (none, w)
      ∧ (render language documents state).fs = w.fs
      ∧ (render language documents state).session = state.session.withRegistry w.compilers := by
  unfold render at quiet ⊢
  dsimp only at quiet ⊢
  cases rendering : renderDocuments
      (renderDocument (state.session.renderer.pipeline language)
        state.session.config.build.output state.session.vars)
      { fs := state.fs, compilers := state.session.renderer.registry } documents with
  | mk failure w =>
    rw [rendering] at quiet
    -- a failure would have been told
    cases failure with
    | some failed =>
      exact absurd rfl (quiet (.failure ("failed: " ++ failed.1) failed.2.fullMessage)
        (by simp [State.tell]))
    | none => exact ⟨w, rfl, rfl, rfl⟩

/-- The same if no document at all is rendered without a notice. -/
theorem render_unless_empty {documents : List String} {state : State R}
    (quiet : ∀ notice ∈ (if documents.isEmpty then state
      else render language documents state).notices, ¬ notice.isFailure) :
    let after := if documents.isEmpty then state else render language documents state
    ∃ w, renderDocuments
        (renderDocument (state.session.renderer.pipeline language)
          state.session.config.build.output state.session.vars)
        { fs := state.fs, compilers := state.session.renderer.registry } documents = (none, w)
      ∧ after.fs = w.fs ∧ after.session = state.session.withRegistry w.compilers := by
  by_cases none : documents.isEmpty
  · rw [if_pos none, List.isEmpty_iff.mp none]
    exact ⟨_, rfl, rfl, rfl⟩
  · rw [if_neg none] at quiet ⊢
    exact render_eq quiet

section Documents

variable {w w' : Workspace (Registry R)} {done : List Path}
  (loaded : session.IsLoaded) (unbroken : ∀ e ∈ session.renderer.extensions, '/' ∉ e.toList)
  (separate : session.Separate fs) (tree : fs.IsTree)

include loaded unbroken separate tree

/-- Whatever documents have been rendered, every document has the file that it had before. -/
theorem source?_of_rendered
    (rendered : session.renderer.Rendered language session.config.build.output session.vars fs done w)
    (subset : done ⊆ session.sources fs) (mem : logical ∈ session.documents) :
    session.source? w.fs logical = session.source? fs logical :=
  source?_congr unbroken loaded rendered.tree tree fun file candidate =>
    rendered.other _ fun source inDone =>
      separate.noCandidate source (subset inDone) logical mem file candidate

/-- Rendering documents one after the other gives each the page that it has on the files as they
were before. -/
theorem rendered_of_renderDocuments
    (functional : (session.renderer.compilers language).IsFunctional session.renderer.registry)
    {todo : List String} (todoSubset : todo ⊆ session.documents) (subset : done ⊆ session.sources fs)
    (rendered : session.renderer.Rendered language session.config.build.output session.vars fs done w)
    (h : renderDocuments (renderDocument (session.renderer.pipeline language)
      session.config.build.output session.vars) w todo = (none, w')) :
    session.renderer.Rendered language session.config.build.output session.vars fs
      ((todo.filterMap (session.source? fs)).reverse ++ done) w' := by
  induction todo generalizing done w with
  | nil =>
    obtain rfl : w = w' := by simpa [renderDocuments] using h
    exact rendered
  | cons logical rest ih =>
    obtain ⟨w₁, first, others⟩ := renderDocuments_cons h
    -- the document is looked up on the files that there are by then
    obtain ⟨source, isSource, drawn⟩ := renderDocument_eq_ok first
    have isDocument := todoSubset List.mem_cons_self
    rw [source?_of_rendered loaded unbroken separate tree rendered subset isDocument] at isSource
    have mem : source ∈ session.sources fs := List.mem_filterMap.mpr ⟨logical, isDocument, isSource⟩
    have next := rendered.renderTo loaded.isPlaced unbroken functional loaded.resolved.output
      (separate.apart unbroken) tree subset mem drawn
    have more := ih (fun d inRest => todoSubset (List.mem_cons_of_mem _ inRest))
      (List.cons_subset.mpr ⟨mem, subset⟩) next others
    simpa [List.filterMap_cons_some isSource] using more

end Documents

/-! ## Section 5: A batch of changes -/

/-- Whether a plan asks for a document with this file. -/
def IsDue (session : Session R) (fs : FileSystem) (plan : Plan) (source : Path) : Prop :=
  plan.renderAll ∨ ∃ changed ∈ plan.changedContent,
    changed.equiv (fs.absolute (session.config.build.root.join source))

theorem mem_affected {root : Path} {state : State R} :
    logical ∈ affected language root plan state ↔ logical ∈ state.session.documents
      ∧ ∃ source, state.session.source? state.fs logical = some source
        ∧ ∃ changed ∈ plan.changedContent, changed.equiv (state.fs.absolute (root.join source)) := by
  have resolve : (state.session.renderer.pipeline language state.fs).resolve (Path.ofString logical)
      = state.session.source? state.fs logical := rfl
  rw [affected, List.mem_filter, resolve]
  cases state.session.source? state.fs logical with
  | none => simp
  | some source => simp

/-- If not all documents are asked for, the affected ones are due. -/
theorem mem_affected_iff_isDue {notices : List Notice} (notAll : ¬ plan.renderAll)
    (isDocument : logical ∈ session.documents) (isSource : session.source? fs logical = some source) :
    logical ∈ affected language session.config.build.root plan { fs, session, notices }
      ↔ session.IsDue fs plan source := by
  rw [mem_affected, IsDue]
  simp [isSource, notAll, isDocument]

/-- The stages of a batch: reading anew, which can fail, and rendering what is asked for. -/
theorem handleChanges_eq (language : ScriptLanguage R) (paths : List Path) (state : State R) :
    let plan := Plan.ofPaths state.fs state.session.config paths
    let next := state.session.reloaded language state.fs plan
    if plan.isEmpty then handleChanges language paths state = state
    else ∃ notices, (state.session.reloads language state.fs plan = false →
        ∃ notice ∈ notices, notice.isFailure)
      ∧ handleChanges language paths state
        = let read : State R := { fs := state.fs, session := next, notices }
          let due := affected language state.session.config.build.root plan read
          if !state.session.reloads language state.fs plan then read
          else if plan.renderAll then renderAll language read
          else if due.isEmpty then read else render language due read := by
  intro plan next
  split
  · rename_i empty
    exact if_pos empty
  · rename_i asked
    obtain ⟨fs, session, notices⟩ := state
    obtain ⟨told, isTold⟩ : ∃ told, told = notices ++ [.detach] ++ [.log "watch" (", ".intercalate
        (paths.map fun p => p.shownBelow session.config.build.root) ++ " changed")] := ⟨_, rfl⟩
    obtain ⟨more, reloading, failed⟩ := reload_eq language plan fs session told
    refine ⟨told ++ more, fun failure => ?_, ?_⟩
    · obtain ⟨notice, mem, isFailure⟩ := failed failure
      exact ⟨notice, List.mem_append_right _ mem, isFailure⟩
    · unfold handleChanges
      rw [if_neg asked]
      dsimp only [State.tell]
      rw [← isTold, reloading]

/-- What reading anew brings about and rendering keeps holds of a session after every batch, whatever
fails. -/
theorem handleChanges_keeps {P : Session R → Prop} {state : State R} (holds : P state.session)
    (reloads : ∀ plan, P (state.session.reloaded language state.fs plan))
    (renders : ∀ (documents : List String) (read : State R),
      P read.session → P (render language documents read).session) (paths : List Path) :
    P (handleChanges language paths state).session := by
  have stages := handleChanges_eq language paths state
  dsimp only at stages
  split at stages
  · rw [stages]
    exact holds
  · obtain ⟨notices, -, handled⟩ := stages
    have next := reloads (Plan.ofPaths state.fs state.session.config paths)
    rw [handled]
    split
    · exact next
    · split
      · exact renders _ _ next
      · split
        · exact next
        · exact renders _ _ next

/-- Handling changes leads to a session whose renderer follows its settings, whatever fails. -/
theorem IsLoaded.handleChanges {state : State R} (loaded : state.session.IsLoaded)
    (tree : state.fs.IsTree) (paths : List Path) :
    (Session.handleChanges language paths state).session.IsLoaded :=
  handleChanges_keeps loaded (fun _ => loaded.reloaded tree)
    (fun _ _ read => read.withRegistry _) paths

/-- A batch that is handled without a failure: what is to be read anew is read, and the documents
that are due are rendered. -/
theorem handleChanges_steps {paths : List Path}
    (quiet : ∀ notice ∈ (handleChanges language paths { fs, session }).notices, ¬ notice.isFailure) :
    let plan := Plan.ofPaths fs session.config paths
    let next := session.reloaded language fs plan
    let after := handleChanges language paths { fs, session }
    ∃ due w, due ⊆ session.documents
      ∧ (∀ logical ∈ session.documents, ∀ source, next.source? fs logical = some source →
          (logical ∈ due ↔ next.IsDue fs plan source))
      ∧ renderDocuments (renderDocument (next.renderer.pipeline language) next.config.build.output
          next.vars) { fs, compilers := next.renderer.registry } due = (none, w)
      ∧ after.fs = w.fs ∧ after.session = next.withRegistry w.compilers := by
  intro plan next after
  have unchanged (notAll : ¬ plan.renderAll) : next = session :=
    reloaded_of_not fun reload => notAll (Plan.renderAll_of_reload reload)
  have stages := handleChanges_eq language paths { fs, session }
  by_cases empty : plan.isEmpty
  · -- nothing is asked for, so nothing is read anew or rendered
    obtain ⟨notAll, noContent⟩ : ¬ plan.renderAll ∧ plan.changedContent = [] := by
      simpa [Plan.isEmpty] using empty
    have same : after = { fs, session } := by simpa [plan, empty] using stages
    rw [unchanged notAll, same]
    refine ⟨[], _, List.nil_subset _, fun _ _ source _ => ?_, rfl, rfl, rfl⟩
    simp [IsDue, notAll, noContent]
  · rw [if_neg empty] at stages
    obtain ⟨notices, failed, handled⟩ := stages
    let state : State R := { fs, session := next, notices }
    change after = if !session.reloads language fs plan then state
        else if plan.renderAll then renderAll language state
        else if (affected language session.config.build.root plan state).isEmpty then state
        else render language (affected language session.config.build.root plan state) state at handled
    change ∀ notice ∈ after.notices, _ at quiet
    rw [handled] at quiet ⊢
    cases succeeded : session.reloads language fs plan with
    | false =>
      -- a reading that fails is told
      rw [succeeded] at quiet
      obtain ⟨notice, mem, isFailure⟩ := failed succeeded
      exact absurd isFailure (quiet notice mem)
    | true =>
      simp only [succeeded, Bool.not_true, Bool.false_eq_true, if_false] at quiet ⊢
      have documents : next.documents = session.documents := reloaded_documents
      by_cases all : plan.renderAll
      · rw [if_pos all] at quiet ⊢
        obtain ⟨w, rendering, files, registry⟩ := render_eq quiet
        refine ⟨session.documents, w, fun _ => id, fun _ mem _ _ => ?_, ?_, files, registry⟩
        · simp [IsDue, all, mem]
        · rw [← rendering, documents]
      · rw [if_neg all] at quiet ⊢
        obtain ⟨w, rendering, files, registry⟩ := render_unless_empty quiet
        refine ⟨_, w, fun logical mem => ?_, fun logical isDocument source isSource => ?_, rendering,
          files, registry⟩
        · rw [← documents]
          exact (mem_affected.mp mem).1
        · rw [← unchanged all]
          exact mem_affected_iff_isDue all (documents ▸ isDocument) isSource

/-- A batch that is handled without a failure renders the files that are due, on the files as they
were when it came. -/
theorem rendered_of_handleChanges {paths : List Path} (loaded : session.IsLoaded) (tree : fs.IsTree)
    (quiet : ∀ notice ∈ (handleChanges language paths { fs, session }).notices, ¬ notice.isFailure) :
    let plan := Plan.ofPaths fs session.config paths
    let next := session.reloaded language fs plan
    let after := handleChanges language paths { fs, session }
    (∀ e ∈ next.renderer.extensions, '/' ∉ e.toList) →
    (next.renderer.compilers language).IsFunctional next.renderer.registry →
    next.Separate fs →
    ∃ done w, next.renderer.Rendered language next.config.build.output next.vars fs done w
      ∧ done ⊆ next.sources fs
      ∧ (∀ source ∈ next.sources fs, source ∈ done ↔ next.IsDue fs plan source)
      ∧ after.fs = w.fs ∧ after.session = next.withRegistry w.compilers := by
  intro plan next after unbroken functional separate
  obtain ⟨due, w, dueSubset, isDue, rendering, files, registry⟩ := handleChanges_steps quiet
  have documents : next.documents = session.documents := reloaded_documents
  have rendered := rendered_of_renderDocuments (loaded.reloaded tree) unbroken separate tree
    functional (documents ▸ dueSubset) (List.nil_subset _) (.start tree) rendering
  have mem_done {source : Path} :
      source ∈ (due.filterMap (next.source? fs)).reverse ++ []
        ↔ ∃ logical ∈ due, next.source? fs logical = some source := by
    rw [List.append_nil, List.mem_reverse, List.mem_filterMap]
  refine ⟨_, w, rendered, fun source mem => ?_, fun source mem => ?_, files, registry⟩
  · obtain ⟨logical, inDue, isSource⟩ := mem_done.mp mem
    exact List.mem_filterMap.mpr ⟨logical, documents ▸ dueSubset inDue, isSource⟩
  · rw [mem_done]
    constructor
    · rintro ⟨logical, inDue, isSource⟩
      exact (isDue logical (dueSubset inDue) source isSource).mp inDue
    · intro sourceDue
      obtain ⟨logical, isDocument, isSource⟩ := List.mem_filterMap.mp mem
      exact ⟨logical, (isDue logical (documents ▸ isDocument) source isSource).mpr sourceDue, isSource⟩

end Session

end Folio
