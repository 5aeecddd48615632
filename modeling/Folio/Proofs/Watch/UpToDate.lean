import Folio.Proofs.Build.Site
import Folio.Proofs.Watch.Session

/-!
# Documents that are up to date

A document is up to date if its target holds its page. A batch of changes leaves a document up to date
just when it is rendered, or has the same file as before, or its target already holds its page: a
changed file is compared with the file that a document has now, so a document is not rendered when
another file takes the place of its own.

Main definitions:
- `Session.UpToDate`: what a session keeps
- `FileSystem.ChangedBy`: changed files, with paths that list them
- `Renderer.SameBeside`: the files that blank names of layouts and partials stand for

Main statements:
- `Session.upToDate_of_rendered`: what is up to date after some documents have been rendered
- `Session.upToDate_of_not_isDue`: a document with the same file is up to date if it is not due
- `Session.upToDate_handleChanges_iff`: when a batch leaves a document up to date
-/

namespace Folio

/-! ## Section 1: What stays as it is -/

/-- Two trees have the same files outside those that paths list, none of which is below a place. -/
structure FileSystem.ChangedBy (fs fs' : FileSystem) (output : Place) (paths : List Path) : Prop where
  tree : fs.IsTree
  tree' : fs'.IsTree
  outside : ∀ place, fs.file? place ≠ fs'.file? place → ¬ output <+: place
  listed : ∀ place, fs.file? place ≠ fs'.file? place →
    ∃ path ∈ paths, (fs'.absolute path).equiv (.ofRootNames place)

/-- A place with different files in two trees has names. -/
theorem FileSystem.ChangedBy.valid {fs fs' : FileSystem} {output : Place} {paths : List Path}
    (changed : fs.ChangedBy fs' output paths) {place : Place}
    (differs : fs.file? place ≠ fs'.file? place) : ∀ name ∈ place, name.IsSegment := by
  cases file : fs.file? place with
  | some content => exact changed.tree.valid_of_file? file
  | none =>
    cases file' : fs'.file? place with
    | some content => exact changed.tree'.valid_of_file? file'
    | none => exact absurd (file.trans file'.symm) differs

/-- The same files beside the directories of layouts and partials, where a blank name stands for one
of them. -/
def Renderer.SameBeside {R : Type} (renderer : Renderer R) (fs fs' : FileSystem) : Prop :=
  ∀ directory ∈ renderer.directories, ∀ file ∈ directory.candidates renderer.extensions,
    fs.file? (renderer.root.join file).place = fs'.file? (renderer.root.join file).place

namespace Session

variable {R : Type} {language : ScriptLanguage R} {session : Session R} {fs fs' : FileSystem}
  {paths done : List Path} {logical : String} {source : Path}

/-! ## Section 2: Up to date -/

/-- The target of a document holds the page of the file that the document has, if it has one. -/
def UpToDate (language : ScriptLanguage R) (session : Session R) (fs : FileSystem)
    (logical : String) : Prop :=
  ∀ source, session.source? fs logical = some source →
    ∃ page, session.renderer.page language fs session.vars source = .ok page
      ∧ fs.file? (session.target source).place = some page.toByteArray

section Rendered

variable {w : Workspace (Registry R)}
  (loaded : session.IsLoaded) (unbroken : ∀ e ∈ session.renderer.extensions, '/' ∉ e.toList)
  (functional : (session.renderer.compilers language).IsFunctional session.renderer.registry)
  (separate : session.Separate fs) (tree : fs.IsTree)

include loaded unbroken functional separate tree

/-- After some files have been rendered, a document is up to date if its file is one of them, or if
it was up to date before. -/
theorem upToDate_of_rendered
    (rendered : session.renderer.Rendered language session.config.build.output session.vars fs done w)
    (subset : done ⊆ session.sources fs) (isDocument : logical ∈ session.documents) :
    (session.withRegistry w.compilers).UpToDate language w.fs logical
      ↔ ∀ source, session.source? fs logical = some source →
          source ∈ done ∨ session.UpToDate language fs logical := by
  have sourceSame : session.source? w.fs logical = session.source? fs logical :=
    source?_of_rendered loaded unbroken separate tree rendered subset isDocument
  unfold UpToDate
  show (∀ source, session.source? w.fs logical = some source → _) ↔ _
  rw [sourceSame]
  refine forall_congr' fun source => forall_congr' fun isSource => ?_
  have mem : source ∈ session.sources fs := List.mem_filterMap.mpr ⟨logical, isDocument, isSource⟩
  have pageSame : (session.withRegistry w.compilers).renderer.page language w.fs session.vars source
      = session.renderer.page language fs session.vars source :=
    (rendered.page_eq loaded.isPlaced unbroken functional (separate.apart unbroken) tree subset mem).1
  show (∃ page, (session.withRegistry w.compilers).renderer.page language w.fs session.vars source
      = .ok page ∧ w.fs.file? (session.target source).place = some page.toByteArray) ↔ _
  rw [pageSame]
  -- a target is written for its own document alone
  by_cases inDone : source ∈ done
  · obtain ⟨page, isPage, file, -⟩ := rendered.page source inDone
    exact ⟨fun _ => .inl inDone, fun _ => ⟨page, isPage, file⟩⟩
  · have fileSame : w.fs.file? (session.target source).place
        = fs.file? (session.target source).place := by
      refine rendered.other _ fun other otherDone same => inDone ?_
      exact separate.distinct other (subset otherDone) source mem same ▸ otherDone
    rw [fileSame]
    constructor
    · intro holds
      refine .inr fun other isOther => ?_
      obtain rfl := Option.some.inj (isSource.symm.trans isOther)
      exact holds
    · rintro (before | before)
      · exact absurd before inDone
      · exact before source isSource

end Rendered

/-! ## Section 3: Changes that are not asked for -/

section NotDue

variable (loaded : session.IsLoaded)
  (unbroken : ∀ e ∈ session.renderer.extensions, '/' ∉ e.toList)
  (changed : fs.ChangedBy fs' session.config.build.output.place paths)

include loaded changed

/-- If not every document is asked for, no layouts or partials have changed, apart from those that
blank names stand for. -/
theorem sameReads_of_not_renderAll
    (notAll : ¬ (Plan.ofPaths fs' session.config paths).renderAll)
    (beside : session.renderer.SameBeside fs fs') : session.renderer.SameReads fs fs' := by
  refine ⟨changed.tree, changed.tree', ?_⟩
  rintro place ⟨directory, mem, inside | ⟨file, candidate, rfl⟩⟩
  · by_contra differs
    rw [loaded.follows.root] at inside
    rw [Renderer.directories, loaded.follows.layouts, loaded.follows.includes] at mem
    exact notAll (Plan.renderAll_of_layout loaded.resolved (changed.valid differs)
      (changed.outside place differs) (changed.listed place differs) mem inside)
  · exact beside directory mem file candidate

include unbroken

/-- If a document is not asked for, its file has not changed. -/
theorem file?_eq_of_not_isDue (isSource : session.source? fs' logical = some source)
    (notDue : ¬ session.IsDue fs' (Plan.ofPaths fs' session.config paths) source) :
    fs.file? (session.renderer.root.join source).place
      = fs'.file? (session.renderer.root.join source).place := by
  by_contra differs
  obtain ⟨names, -, valid, rfl⟩ := isRow_of_source? unbroken isSource
  obtain ⟨plain, place⟩ := Path.join_ofNames loaded.isPlaced.root valid
  -- the file is there, so its absolute path is spelled by its place
  have spelled : fs'.absolute (session.renderer.root.join (Path.ofNames names))
      = .ofRootNames (session.renderer.root.join (Path.ofNames names)).place := by
    obtain ⟨q, content, found⟩ :=
      FileSystem.isFile_iff.mp (Resources.mem_candidates_of_resolve isSource).2
    obtain rfl := FileSystem.locate_eq_ok plain.absolute (FileSystem.find_eq_ok_iff.mp found).1
    exact FileSystem.absolute_of_find found
  rw [IsDue, ← loaded.follows.root, spelled] at notDue
  refine notDue (Plan.renderAll_or_changed loaded.resolved (changed.valid differs)
    (changed.outside _ differs) (changed.listed _ differs) ?_)
  rw [place, loaded.follows.root]
  exact List.prefix_append ..

/-- A document that has the same file as before stays up to date, if it is not asked for and the
files beside the directories of layouts and partials have not changed. -/
theorem upToDate_of_not_isDue (before : session.UpToDate language fs logical)
    (isSource : session.source? fs logical = some source)
    (isSource' : session.source? fs' logical = some source)
    (beside : session.renderer.SameBeside fs fs')
    (notDue : ¬ session.IsDue fs' (Plan.ofPaths fs' session.config paths) source) :
    session.UpToDate language fs' logical := by
  intro other isOther
  obtain rfl := Option.some.inj (isSource'.symm.trans isOther)
  obtain ⟨page, isPage, file⟩ := before source isSource
  have sameReads := sameReads_of_not_renderAll loaded changed (fun all => notDue (.inl all)) beside
  have sameFile := file?_eq_of_not_isDue loaded unbroken changed isSource' notDue
  have row := isRow_of_source? unbroken isSource
  -- nothing in the output directory has changed
  have sameTarget : fs.file? (session.target source).place
      = fs'.file? (session.target source).place := by
    by_contra differs
    refine changed.outside _ differs ?_
    rw [target, (Config.place_targetIn_of_isRow loaded.resolved.output row).1]
    exact List.prefix_append ..
  refine ⟨page, ?_, sameTarget ▸ file⟩
  obtain ⟨names, -, valid, rfl⟩ := row
  rw [(Path.join_ofNames loaded.isPlaced.root valid).2] at sameFile
  rw [← isPage, Renderer.page, Renderer.page, Renderer.renderPath_congr loaded.isPlaced unbroken
    language sameReads valid sameFile]

end NotDue

/-! ## Section 4: A batch of changes -/

/-- A session after a batch has made it read anew. -/
def next (language : ScriptLanguage R) (fs : FileSystem) (paths : List Path) (session : Session R) :
    Session R :=
  session.reloaded language fs (Plan.ofPaths fs session.config paths)

/-- A batch that is handled without a failure. It lists what has changed, none of which is in the
output directory. From then on, compilers are functions, extensions have no separators, and no
rendering reads a target. -/
structure Handled (language : ScriptLanguage R) (session : Session R) (fs fs' : FileSystem)
    (paths : List Path) : Prop where
  changed : fs.ChangedBy fs' session.config.build.output.place paths
  quiet : ∀ notice ∈ (handleChanges language paths { fs := fs', session }).notices, ¬ notice.isFailure
  unbroken : ∀ e ∈ (session.next language fs' paths).renderer.extensions, '/' ∉ e.toList
  functional : ((session.next language fs' paths).renderer.compilers language).IsFunctional
    (session.next language fs' paths).renderer.registry
  separate : (session.next language fs' paths).Separate fs'

/-- What a batch leaves up to date: documents that it renders, and those that are up to date on the
changed files. -/
theorem Handled.upToDate_iff (handled : session.Handled language fs fs' paths)
    (loaded : session.IsLoaded) (isDocument : logical ∈ session.documents) :
    let plan := Plan.ofPaths fs' session.config paths
    let next := session.next language fs' paths
    let after := handleChanges language paths { fs := fs', session }
    after.session.UpToDate language after.fs logical
      ↔ ∀ source, next.source? fs' logical = some source →
          next.IsDue fs' plan source ∨ next.UpToDate language fs' logical := by
  intro plan next after
  have tree := handled.changed.tree'
  obtain ⟨done, w, rendered, subset, isDue, files, registry⟩ := rendered_of_handleChanges loaded tree
    handled.quiet handled.unbroken handled.functional handled.separate
  have documents : next.documents = session.documents := reloaded_documents
  have isDocument' : logical ∈ next.documents := documents ▸ isDocument
  unfold after
  rw [files, registry, upToDate_of_rendered (loaded.reloaded tree) handled.unbroken
    handled.functional handled.separate tree rendered subset isDocument']
  refine forall_congr' fun source =>
    forall_congr' fun (isSource : next.source? fs' logical = some source) => ?_
  rw [isDue source (List.mem_filterMap.mpr ⟨logical, isDocument', isSource⟩)]
  rfl

/-- A batch renders a document that has the same file as before, or leaves it up to date. -/
theorem Handled.isDue_or_upToDate (handled : session.Handled language fs fs' paths)
    (loaded : session.IsLoaded) (before : session.UpToDate language fs logical)
    (isSource : session.source? fs logical = some source)
    (isSource' : (session.next language fs' paths).source? fs' logical = some source)
    (beside : session.renderer.SameBeside fs fs') :
    (session.next language fs' paths).IsDue fs' (Plan.ofPaths fs' session.config paths) source
      ∨ (session.next language fs' paths).UpToDate language fs' logical := by
  refine or_iff_not_imp_left.mpr fun notDue => ?_
  -- a session that does not ask for all documents has read nothing anew
  have unchanged : session.next language fs' paths = session :=
    reloaded_of_not fun reload => notDue (.inl (Plan.renderAll_of_reload reload))
  have unbroken := handled.unbroken
  rw [unchanged] at unbroken isSource' notDue ⊢
  exact upToDate_of_not_isDue loaded unbroken handled.changed before isSource isSource' beside notDue

/-- A batch leaves a document up to date that was up to date before, just when the document is
rendered, or has the same file as before, or its target already holds its page. -/
theorem upToDate_handleChanges_iff (loaded : session.IsLoaded)
    (handled : session.Handled language fs fs' paths) (isDocument : logical ∈ session.documents)
    (before : session.UpToDate language fs logical) :
    let plan := Plan.ofPaths fs' session.config paths
    let next := session.next language fs' paths
    let after := handleChanges language paths { fs := fs', session }
    after.session.UpToDate language after.fs logical
      ↔ ∀ source, next.source? fs' logical = some source →
          next.IsDue fs' plan source
            ∨ (session.source? fs logical = some source ∧ session.renderer.SameBeside fs fs')
            ∨ next.UpToDate language fs' logical := by
  intro plan next after
  refine (handled.upToDate_iff loaded isDocument).trans ?_
  refine forall_congr' fun source => forall_congr' fun isSource => ⟨fun h => h.imp_right .inr, ?_⟩
  rintro (due | ⟨same, beside⟩ | held)
  · exact .inl due
  · exact handled.isDue_or_upToDate loaded before same isSource beside
  · exact .inr held

/-- A document that two files can be, of which the first has been rendered. -/
def twoCandidates : FileSystem where
  entries := [([.ofString "w"], .directory),
    ([.ofString "w", .ofString "a.html"], .file "x".toByteArray),
    ([.ofString "w", .ofString "a.txt"], .file "y".toByteArray),
    ([.ofString "w", .ofString "public"], .directory),
    ([.ofString "w", .ofString "public", .ofString "a.html"], .file "x".toByteArray)]
  workingDirectory := [.ofString "w"]

/-- The same without the first file. -/
def oneCandidate : FileSystem := twoCandidates.prune [.ofString "w", .ofString "a.html"]

/-- A session with this document. -/
def defaultSession : Session Unit where
  commandLine := { config := .ofString "quire.toml", command := .watch ["a"] [] }
  config := defaultConfig
  renderer := defaultRenderer
  documents := ["a"]
  vars := .empty

theorem isLoaded_defaultSession : defaultSession.IsLoaded := by
  have tree : twoCandidates.IsTree := by decide +kernel
  have settings : Config.load twoCandidates defaultSession.commandLine = .ok defaultConfig := by rfl
  have compilers : Renderer.ofConfig .none twoCandidates defaultConfig = .ok defaultRenderer := by rfl
  exact .of_load tree settings compilers ..

theorem next_defaultSession :
    defaultSession.next .none oneCandidate [.ofString "/w/a.html"] = defaultSession :=
  reloaded_of_not (by decide +kernel)

/-- The batch says what has been removed. -/
theorem handled_oneCandidate :
    defaultSession.Handled .none twoCandidates oneCandidate [.ofString "/w/a.html"] := by
  have tree : twoCandidates.IsTree := by decide +kernel
  have file : twoCandidates.file? [.ofString "w", .ofString "a.html"] = some "x".toByteArray := by
    decide +kernel
  have one {place : Place} (differs : twoCandidates.file? place ≠ oneCandidate.file? place) :
      place = [.ofString "w", .ofString "a.html"] := by
    by_contra elsewhere
    apply differs
    rw [oneCandidate, FileSystem.file?_prune_file tree file, if_neg elsewhere]
  have unbroken : ∀ e ∈ defaultSession.renderer.extensions, '/' ∉ e.toList := by decide +kernel
  refine ⟨⟨tree, tree.prune _, fun place differs => ?_, fun place differs => ?_⟩, by decide +kernel,
    ?_, ?_, ?_⟩
  · rw [one differs]
    decide +kernel
  · rw [one differs]
    exact ⟨_, List.mem_singleton_self _, by decide +kernel⟩
  · rw [next_defaultSession]
    exact unbroken
  · rw [next_defaultSession]
    exact Renderer.isFunctional_of_no_scripts rfl
  · rw [next_defaultSession]
    exact .of_outputApart isLoaded_defaultSession unbroken
      ⟨by decide +kernel, by decide +kernel, by decide +kernel⟩ (by decide +kernel) (by decide +kernel)

/-- A document that was up to date is not when the first of its files has been removed, although the
batch says so. -/
theorem not_upToDate_oneCandidate :
    let paths := [Path.ofString "/w/a.html"]
    let after := handleChanges .none paths { fs := oneCandidate, session := defaultSession }
    defaultSession.IsLoaded ∧ defaultSession.Handled .none twoCandidates oneCandidate paths
      ∧ defaultSession.UpToDate .none twoCandidates "a"
      ∧ ¬ after.session.UpToDate .none after.fs "a" := by
  intro paths after
  have before : defaultSession.UpToDate .none twoCandidates "a" := by
    intro source isSource
    obtain rfl : .ofString "a.html" = source := by
      refine Option.some.inj (Eq.trans ?_ isSource)
      decide +kernel
    exact ⟨"x", by decide +kernel, by decide +kernel⟩
  refine ⟨isLoaded_defaultSession, handled_oneCandidate, before, fun isUpToDate => ?_⟩
  have reasons := (upToDate_handleChanges_iff isLoaded_defaultSession handled_oneCandidate
    List.mem_cons_self before).mp isUpToDate (.ofString "a.txt")
    (by rw [next_defaultSession]; decide +kernel)
  rw [next_defaultSession] at reasons
  rcases reasons with due | ⟨same, -⟩ | held
  · exact absurd due (not_or.mpr ⟨by decide +kernel, by decide +kernel⟩)
  · exact absurd same (by decide +kernel)
  · -- the target still holds the page of the removed file
    obtain ⟨page, isPage, file⟩ := held (.ofString "a.txt") (by decide +kernel)
    have drawn : defaultSession.renderer.page .none oneCandidate defaultSession.vars
        (.ofString "a.txt") = .ok "y" := by decide +kernel
    obtain rfl : page = "y" := Except.ok.inj (isPage.symm.trans drawn)
    exact absurd file (by decide +kernel)

/-! ## Section 5: A watch -/

/-- The first rendering, if nothing fails, leaves every document up to date. -/
theorem upToDate_renderAll (loaded : session.IsLoaded) (tree : fs.IsTree)
    (unbroken : ∀ e ∈ session.renderer.extensions, '/' ∉ e.toList)
    (functional : (session.renderer.compilers language).IsFunctional session.renderer.registry)
    (separate : session.Separate fs)
    (quiet : ∀ notice ∈ (renderAll language { fs, session }).notices, ¬ notice.isFailure)
    (isDocument : logical ∈ session.documents) :
    let after := renderAll language { fs, session }
    after.session.UpToDate language after.fs logical := by
  intro after
  obtain ⟨w, rendering, files, registry⟩ := render_eq quiet
  have rendered := rendered_of_renderDocuments loaded unbroken separate tree functional
    (List.Subset.refl _) (List.nil_subset _) (.start tree) rendering
  have all {source : Path} : source ∈ (session.documents.filterMap (session.source? fs)).reverse ++ []
      ↔ source ∈ session.sources fs := by
    rw [List.append_nil, List.mem_reverse, sources]
  show (render language session.documents { fs, session }).session.UpToDate language
    (render language session.documents { fs, session }).fs logical
  rw [files, registry, upToDate_of_rendered loaded unbroken functional separate tree rendered
    (fun _ => all.mp) isDocument]
  exact fun source isSource =>
    .inl (all.mpr (List.mem_filterMap.mpr ⟨logical, isDocument, isSource⟩))

/-- The states of a watch in which nothing fails and every batch asks for each document that has
another file than before. -/
inductive Watched (language : ScriptLanguage R) : State R → Prop
  | start {fs : FileSystem} {session : Session R} (loaded : session.IsLoaded) (tree : fs.IsTree)
      (unbroken : ∀ e ∈ session.renderer.extensions, '/' ∉ e.toList)
      (functional : (session.renderer.compilers language).IsFunctional session.renderer.registry)
      (separate : session.Separate fs)
      (quiet : ∀ notice ∈ (renderAll language { fs, session }).notices, ¬ notice.isFailure) :
      Watched language (renderAll language { fs, session })
  | batch {state : State R} {fs' : FileSystem} {paths : List Path} (before : Watched language state)
      (handled : state.session.Handled language state.fs fs' paths)
      (found : ∀ logical ∈ state.session.documents, ∀ source,
        (state.session.next language fs' paths).source? fs' logical = some source →
          (state.session.next language fs' paths).IsDue fs'
              (Plan.ofPaths fs' state.session.config paths) source
            ∨ (state.session.source? state.fs logical = some source
              ∧ state.session.renderer.SameBeside state.fs fs')) :
      Watched language (handleChanges language paths { fs := fs', session := state.session })

/-- Every state of a watch has all documents up to date. -/
theorem Watched.upToDate {state : State R} (watched : Watched language state) :
    state.session.IsLoaded
      ∧ ∀ logical ∈ state.session.documents, state.session.UpToDate language state.fs logical := by
  induction watched with
  | start loaded tree unbroken functional separate quiet =>
    exact ⟨loaded.withRegistry _, fun logical isDocument =>
      upToDate_renderAll loaded tree unbroken functional separate quiet isDocument⟩
  | @batch state fs' paths before handled found ih =>
    obtain ⟨loaded, upToDate⟩ := ih
    have tree := handled.changed.tree'
    have changed : ({ fs := fs', session := state.session } : State R).session.IsLoaded := loaded
    have documents : (handleChanges language paths { fs := fs', session := state.session }).session.documents
        = state.session.documents := by
      obtain ⟨done, w, -, -, -, -, registry⟩ := rendered_of_handleChanges loaded tree
        handled.quiet handled.unbroken handled.functional handled.separate
      rw [registry]
      exact reloaded_documents
    refine ⟨changed.handleChanges tree paths, fun logical isDocument => ?_⟩
    rw [documents] at isDocument
    refine (handled.upToDate_iff loaded isDocument).mpr fun source isSource => ?_
    rcases found logical isDocument source isSource with due | ⟨same, beside⟩
    · exact .inl due
    · exact handled.isDue_or_upToDate loaded (upToDate logical isDocument) same isSource beside

end Session

end Folio
