import Folio.Proofs.Watch.Consistency
import Folio.Proofs.Watch.Render

/-!
# What a batch renders

A batch in which nothing shows in every document renders the documents whose file it lists, and no
other file changes but their targets. It makes no difference in which order the paths come, or how
often. Any other batch has what it asks for read anew, and if that succeeds, every document is
rendered.

Two comparisons meet here: a path is content by where it is, and a document is listed by the path of
the file that it has now.

Main definitions:
- `Session.IsListed`: whether a batch lists the file of a document
- `Session.listed`: the documents that are rendered for a batch of content

Main statements:
- `Session.handleChanges_congr`: batches with the same paths
- `Session.handleChanges_of_not_renderAll`, `Session.handleChanges_of_renderAll`: what a batch does
- `Session.leaves_handleChanges`: what it leaves
-/

namespace Folio

/-! ## Section 1: What a batch asks for -/

namespace Plan

variable {fs : FileSystem} {config : Config} {paths paths' : List Path}

theorem renderAll_iff :
    (ofPaths fs config paths).renderAll ↔ ∃ path ∈ paths, (config.categorize fs path).affectsAll := by
  simp [ofPaths_eq]

theorem mem_changedContent {changed : Path} :
    changed ∈ (ofPaths fs config paths).changedContent
      ↔ ∃ path ∈ paths, config.categorize fs path = .content ∧ fs.absolute path = changed := by
  simp [ofPaths_eq, and_assoc]

/-- What is to be read anew or rendered does not depend on the order of paths. -/
theorem flags_congr (fs : FileSystem) (config : Config)
    (same : ∀ path, path ∈ paths ↔ path ∈ paths') :
    (ofPaths fs config paths).reloadConfig = (ofPaths fs config paths').reloadConfig
      ∧ (ofPaths fs config paths).reloadScripts = (ofPaths fs config paths').reloadScripts
      ∧ (ofPaths fs config paths).renderAll = (ofPaths fs config paths').renderAll := by
  have any (p : Path → Bool) : paths.any p = paths'.any p := by
    rw [Bool.eq_iff_iff, List.any_eq_true, List.any_eq_true]
    simp [same]
  simp only [ofPaths_eq, any, and_self]

end Plan

namespace Session

variable {R : Type} {language : ScriptLanguage R} {session : Session R} {fs : FileSystem}
  {paths paths' : List Path} {logical : String} {notices : List Notice}

/-- A batch lists the file of a document, as content. -/
def IsListed (session : Session R) (fs : FileSystem) (paths : List Path) (logical : String) : Prop :=
  ∃ source, session.source? fs logical = some source
    ∧ ∃ path ∈ paths, session.config.categorize fs path = .content
      ∧ (fs.absolute path).equiv (fs.absolute (session.config.build.root.join source))

/-- The documents of a session that a batch lists. -/
def listed (language : ScriptLanguage R) (session : Session R) (fs : FileSystem)
    (paths : List Path) : List String :=
  affected language session.config.build.root (Plan.ofPaths fs session.config paths) { fs, session }

theorem mem_listed :
    logical ∈ session.listed language fs paths
      ↔ logical ∈ session.documents ∧ session.IsListed fs paths logical := by
  rw [listed, mem_affected, IsListed]
  simp [Plan.mem_changedContent, and_assoc]

theorem listed_congr (same : ∀ path, path ∈ paths ↔ path ∈ paths') :
    session.listed language fs paths = session.listed language fs paths' := by
  refine List.filter_congr fun logical _ => ?_
  dsimp only
  split
  · rfl
  · rw [Bool.eq_iff_iff, List.any_eq_true, List.any_eq_true]
    simp [Plan.mem_changedContent, same]

/-! ## Section 2: What a batch does -/

/-- What has been told makes no difference to a rendering. -/
theorem render_notices (documents : List String) (notices : List Notice) :
    (render language documents { fs, session, notices }).fs
        = (render language documents { fs, session }).fs
      ∧ (render language documents { fs, session, notices }).session
        = (render language documents { fs, session }).session :=
  ⟨rfl, rfl⟩

/-- A batch in which nothing shows in every document renders the documents that it lists. -/
theorem handleChanges_of_not_renderAll (language : ScriptLanguage R) (notices : List Notice)
    (notAll : ¬ (Plan.ofPaths fs session.config paths).renderAll) :
    let after := handleChanges language paths { fs, session, notices }
    let rendered := render language (session.listed language fs paths) { fs, session }
    after.fs = rendered.fs ∧ after.session = rendered.session := by
  intro after rendered
  have nothing : ¬ ((Plan.ofPaths fs session.config paths).reloadConfig
      ∨ (Plan.ofPaths fs session.config paths).reloadScripts) :=
    mt Plan.renderAll_of_reload notAll
  have stages := handleChanges_eq language paths { fs, session, notices }
  have unlisted (none : session.listed language fs paths = []) :
      rendered.fs = fs ∧ rendered.session = session := by
    simp only [rendered, none]
    exact ⟨rfl, rfl⟩
  dsimp only at stages
  split at stages
  · rename_i empty
    -- there is no content in the batch, so no document is listed
    have noContent : (Plan.ofPaths fs session.config paths).changedContent = [] := by
      simp only [Plan.isEmpty, Bool.and_eq_true, List.isEmpty_iff] at empty
      exact empty.2
    obtain ⟨files, same⟩ := unlisted (List.eq_nil_iff_forall_not_mem.mpr fun logical mem => by
      rw [listed, mem_affected] at mem
      simp [noContent] at mem)
    rw [files, same]
    exact ⟨congrArg State.fs stages, congrArg State.session stages⟩
  · obtain ⟨notices', -, handled⟩ := stages
    have succeeded : session.reloads language fs (Plan.ofPaths fs session.config paths) = true := by
      rw [not_or] at nothing
      rw [reloads, reload, if_neg nothing.1, if_neg nothing.2]
    rw [reloaded_of_not nothing, succeeded, Bool.not_true, if_neg Bool.false_ne_true] at handled
    change after = if (session.listed language fs paths).isEmpty then _
      else render language (session.listed language fs paths) _ at handled
    rw [handled]
    split
    · rename_i none
      obtain ⟨files, same⟩ := unlisted (List.isEmpty_iff.mp none)
      exact ⟨files.symm, same.symm⟩
    · exact render_notices ..

/-- Any other batch renders every document, if what it asks for can be read anew. -/
theorem handleChanges_of_renderAll (language : ScriptLanguage R) (notices : List Notice)
    (all : (Plan.ofPaths fs session.config paths).renderAll) :
    let plan := Plan.ofPaths fs session.config paths
    ∃ told, handleChanges language paths { fs, session, notices }
      = let read : State R := { fs, session := session.reloaded language fs plan, notices := told }
        if session.reloads language fs plan then renderAll language read else read := by
  intro plan
  have stages := handleChanges_eq language paths { fs, session, notices }
  have asked : ¬ plan.isEmpty := by simp [plan, Plan.isEmpty, all]
  rw [if_neg asked] at stages
  obtain ⟨told, -, handled⟩ := stages
  refine ⟨told, handled.trans ?_⟩
  cases session.reloads language fs plan <;> simp [plan, all]

/-- What is read anew depends on the flags of a plan. -/
theorem reload_congr {plan plan' : Plan} (config : plan.reloadConfig = plan'.reloadConfig)
    (scripts : plan.reloadScripts = plan'.reloadScripts) (state : State R) :
    reload language plan state = reload language plan' state := by
  unfold reload
  rw [config, scripts]

/-- Batches with the same paths do the same, in whatever order the paths come and however often. -/
theorem handleChanges_congr (same : ∀ path, path ∈ paths ↔ path ∈ paths') :
    let after := handleChanges language paths { fs, session, notices }
    let after' := handleChanges language paths' { fs, session, notices }
    after.fs = after'.fs ∧ after.session = after'.session := by
  intro after after'
  obtain ⟨config, scripts, all⟩ := Plan.flags_congr fs session.config same
  by_cases renderAll : (Plan.ofPaths fs session.config paths).renderAll
  · have reads : session.reloaded language fs (Plan.ofPaths fs session.config paths)
          = session.reloaded language fs (Plan.ofPaths fs session.config paths')
        ∧ session.reloads language fs (Plan.ofPaths fs session.config paths)
          = session.reloads language fs (Plan.ofPaths fs session.config paths') := by
      unfold reloaded reloads
      rw [reload_congr config scripts]
      exact ⟨rfl, rfl⟩
    obtain ⟨told, handled⟩ := handleChanges_of_renderAll language notices renderAll
    obtain ⟨told', handled'⟩ := handleChanges_of_renderAll language notices (all ▸ renderAll)
    simp only [after, after', handled, handled', reads]
    split <;> exact ⟨rfl, rfl⟩
  · obtain ⟨files, session₁⟩ := handleChanges_of_not_renderAll language notices renderAll
    obtain ⟨files', session₂⟩ := handleChanges_of_not_renderAll language notices (all ▸ renderAll)
    rw [listed_congr same] at files session₁
    exact ⟨files.trans files'.symm, session₁.trans session₂.symm⟩

/-! ## Section 3: What a batch leaves -/

/-- What a batch leaves that renders some documents of a session: those that are drawn have their
pages at their targets, if these can be written, and no other file has changed. Of the session, only
runtimes have. -/
structure Renders (language : ScriptLanguage R) (session : Session R) (fs : FileSystem)
    (documents : List String) (after : State R) : Prop where
  leaves : session.Leaves fs
    (session.drawEach language fs session.renderer.registry documents.zipIdx).1 after.fs
  /-- What is drawn for a document is its own page, if compilers are functions. -/
  drawn : (session.renderer.compilers language).IsFunctional session.renderer.registry →
    ∀ entry result,
      (entry, result)
          ∈ (session.drawEach language fs session.renderer.registry documents.zipIdx).1 →
        result = ((session.draw language fs entry.1).runFrom session.renderer.registry).1
  runtimes : after.session = session.withRegistry
    (session.drawEach language fs session.renderer.registry documents.zipIdx).2
  outline : after.session.renderer.outline = session.renderer.outline

theorem renders_render (language : ScriptLanguage R) {documents : List String}
    (loaded : session.IsLoaded) (tree : fs.IsTree) (apart : session.Apart fs documents)
    (notices : List Notice) :
    session.Renders language fs documents (render language documents { fs, session, notices }) := by
  have left := leaves_renderBy loaded tree apart (.refl _) language notices
  rw [← render_eq_renderBy] at left
  exact ⟨left.1, fun functional entry result => drawn_eq functional .start, left.2,
    outline_render documents _⟩

/-- A batch in which nothing shows in every document renders the documents that it lists, and only
these. Whatever there is in a batch, how often its paths come makes no difference, nor in which order.
If something shows in every document, all of them are rendered, as long as what the batch asks for can
be read anew. -/
theorem renders_handleChanges (language : ScriptLanguage R) (notices : List Notice)
    (paths : List Path) (loaded : session.IsLoaded) (tree : fs.IsTree) :
    let plan := Plan.ofPaths fs session.config paths
    let next := session.reloaded language fs plan
    let after := handleChanges language paths { fs, session, notices }
    ((∀ path ∈ paths, ¬ (session.config.categorize fs path).affectsAll) →
      (∀ logical, logical ∈ session.listed language fs paths
        ↔ logical ∈ session.documents ∧ session.IsListed fs paths logical)
      ∧ (session.Apart fs (session.listed language fs paths) →
        session.Renders language fs (session.listed language fs paths) after))
    ∧ (∀ paths', (∀ path, path ∈ paths ↔ path ∈ paths') →
      after.fs = (handleChanges language paths' { fs, session, notices }).fs
      ∧ after.session = (handleChanges language paths' { fs, session, notices }).session)
    ∧ ((∃ path ∈ paths, (session.config.categorize fs path).affectsAll) →
      session.reloads language fs plan →
        (∃ told, after = renderAll language { fs, session := next, notices := told })
        ∧ (next.Apart fs session.documents →
          next.Renders language fs session.documents after)) := by
  intro plan next after
  refine ⟨fun noneAll => ⟨fun logical => mem_listed, fun apart => ?_⟩,
    fun paths' => handleChanges_congr, fun someAll succeeded => ?_⟩
  · have notAll : ¬ plan.renderAll := by
      rw [Plan.renderAll_iff]
      rintro ⟨path, mem, all⟩
      exact noneAll path mem all
    obtain ⟨files, same⟩ := handleChanges_of_not_renderAll language notices notAll
    obtain ⟨leaves, drawn, registry, outline⟩ := renders_render language loaded tree apart []
    exact ⟨files ▸ leaves, drawn, same.trans registry, same ▸ outline⟩
  · have all : plan.renderAll := Plan.renderAll_iff.mpr someAll
    obtain ⟨told, handled⟩ := handleChanges_of_renderAll language notices all
    rw [if_pos succeeded] at handled
    refine ⟨⟨told, handled⟩, fun apart => ?_⟩
    have documents : next.documents = session.documents := reloaded_documents
    rw [show after = _ from handled, renderAll, documents]
    exact renders_render language (loaded.reloaded tree) tree apart told

/-- A batch of content, of which one document fails and one is not listed, and a batch with a
layout. -/
theorem renders_handleChanges_oneFails :
    let state : State Unit := { fs := oneFails, session := watching ["a", "b", "c"] }
    let content : List Path := [.ofString "/w/b.txt", .ofString "/w/a.txt", .ofString "/w/./a.txt"]
    let after := handleChanges .none content state
    let afterLayout := handleChanges .none [.ofString "/w/_layouts/m.html"] state
    state.session.IsLoaded ∧ oneFails.IsTree
      ∧ after.fs.file? [.ofString "w", .ofString "public", .ofString "a.html"]
        = some "x".toByteArray
      ∧ after.fs.file? [.ofString "w", .ofString "public", .ofString "b.html"]
        = some "old".toByteArray
      ∧ after.fs.file? [.ofString "w", .ofString "public", .ofString "c.html"] = none
      ∧ after.session.config = state.session.config
      ∧ after.fs = (handleChanges .none content.reverse state).fs
      ∧ afterLayout.fs.file? [.ofString "w", .ofString "public", .ofString "c.html"]
        = some "z".toByteArray := by
  intro state content after afterLayout
  have loaded : state.session.IsLoaded := isLoaded_watching _
  have tree : oneFails.IsTree := by decide +kernel
  have apart : state.session.Apart oneFails state.session.documents :=
    ⟨disjoint_watching (by decide +kernel), by decide +kernel, by decide +kernel⟩
  obtain ⟨listed, reordered, -⟩ := renders_handleChanges .none [] content loaded tree
  obtain ⟨leaves, -, runtimes, -⟩ :=
    (listed (by decide +kernel)).2 (apart.sublist List.filter_sublist)
  obtain ⟨-, -, all⟩ :=
    renders_handleChanges .none [] [.ofString "/w/_layouts/m.html"] loaded tree
  have same : state.session.reloaded .none oneFails (Plan.ofPaths oneFails state.session.config
      [.ofString "/w/_layouts/m.html"]) = state.session := reloaded_of_not (by decide +kernel)
  rw [same] at all
  obtain ⟨-, rendered⟩ := all (by decide +kernel) (by decide +kernel)
  -- one of the two documents that are listed is drawn
  have unwritten {place : Place} (elsewhere :
      (state.session.target (.ofString "a.txt")).place ≠ place) :
      after.fs.file? place = oneFails.file? place := by
    refine leaves.others place fun entry page source mem isSource _ => ?_
    have drawn : (state.session.drawEach .none oneFails state.session.renderer.registry
        (state.session.listed .none oneFails content).zipIdx).1
          = [(("a", 0), .ok "x"),
            (("b", 1), .error (.render (.layoutNotFound "l" (.ofString "b.txt"))))] := by
      decide +kernel
    obtain ⟨rfl, -⟩ : entry = ("a", 0) ∧ page = "x" := by simpa [drawn] using mem
    obtain rfl : .ofString "a.txt" = source := by
      refine Option.some.inj (Eq.trans ?_ isSource)
      decide +kernel
    exact elsewhere
  refine ⟨loaded, tree, ?_, ?_, ?_, ?_, ?_, ?_⟩
  · exact leaves.page ("a", 0) "x" (.ofString "a.txt") (by decide +kernel) (by decide +kernel)
      (by decide +kernel)
  · exact (unwritten (by decide +kernel)).trans (by decide +kernel)
  · exact (unwritten (by decide +kernel)).trans (by decide +kernel)
  · rw [show after.session = _ from runtimes]
    rfl
  · exact (reordered _ fun path => List.mem_reverse.symm).1
  · exact (rendered apart).leaves.page ("c", 2) "z" (.ofString "c.txt") (by decide +kernel)
      (by decide +kernel) (by decide +kernel)

/-- The target of a document is a directory, and the targets of two others are nested. -/
def refusedTargets : FileSystem where
  entries := [([.ofString "w"], .directory),
    ([.ofString "w", .ofString "d.txt"], .file "d".toByteArray),
    ([.ofString "w", .ofString "x.txt"], .file "a".toByteArray),
    ([.ofString "w", .ofString "x.html"], .directory),
    ([.ofString "w", .ofString "x.html", .ofString "b.txt"], .file "b".toByteArray),
    ([.ofString "w", .ofString "public"], .directory),
    ([.ofString "w", .ofString "public", .ofString "d.html"], .directory)]
  workingDirectory := [.ofString "w"]

/-- What is listed and drawn is not written if its target is a directory, or lies below a target that
has been written before. -/
theorem not_leaves_refusedTargets :
    let session := watching ["d", "x", "x.html/b"]
    let paths : List Path :=
      [.ofString "/w/d.txt", .ofString "/w/x.txt", .ofString "/w/x.html/b.txt"]
    let after := handleChanges .none paths { fs := refusedTargets, session }
    let target (source : String) : Path := session.target (.ofString source)
    session.IsLoaded ∧ refusedTargets.IsTree
      ∧ session.Disjoint refusedTargets session.documents
      ∧ ((session.sourcesOf refusedTargets session.documents).Pairwise fun a b =>
        (session.target a).place ≠ (session.target b).place)
      ∧ (∀ path ∈ paths, ¬ (session.config.categorize refusedTargets path).affectsAll)
      ∧ (∀ logical ∈ session.documents, session.IsListed refusedTargets paths logical)
      ∧ (session.drawEach .none refusedTargets session.renderer.registry
          session.documents.zipIdx).1
        = [(("d", 0), .ok "d"), (("x", 1), .ok "a"), (("x.html/b", 2), .ok "b")]
      ∧ after.fs.file? (target "d.txt").place = none
      ∧ refusedTargets.Accepts (target "x.html/b.txt")
      ∧ after.fs.file? (target "x.html/b.txt").place = none := by
  intro session paths after target
  have listed : session.listed .none refusedTargets paths = session.documents := by decide +kernel
  exact ⟨isLoaded_watching _, by decide +kernel, disjoint_watching (by decide +kernel),
    by decide +kernel, by decide +kernel,
    fun logical mem => (mem_listed.mp (listed ▸ mem)).2,
    by decide +kernel, by decide +kernel, by decide +kernel, by decide +kernel⟩

end Session

end Folio
