import Folio.Proofs.Build.Attempt
import Folio.Proofs.Resources.Resolution
import Folio.Proofs.Watch.Session

/-!
# One document of a session

A document of a session is looked up and drawn on the files as they are, and its page is written to
its target. If nothing that the session looks up is at a target, it does not matter which other
documents have been tried before: the document has the file that it had, and what is drawn for it is
what would have been drawn then.

Main definitions:
- `Session.LooksUp`: the paths that a session looks up
- `Session.Disjoint`: targets that have nothing to do with these paths
- `Session.Apart`: targets that moreover have nothing to do with one another
- `Session.draw`: what is drawn for a document
- `Session.Ends`: what becomes of a document

Main statements:
- `Session.Disjoint.of_outputApart`: an output directory that is apart from all that is looked up
- `Session.Disjoint.source?_eq`, `Session.Disjoint.renderPath_eq`: what other documents do not
  change
- `Session.exists_ends_renderDocument`: one document among others
-/

namespace Folio

/-! ## Section 1: Where documents go -/

namespace Path

variable {p file output source : Path} {extensions : List String}

theorem isAbsolute_of_mem_candidates (h : file ∈ p.candidates extensions) :
    file.isAbsolute = false := by
  obtain ⟨init, last, e, -, -, names, rfl⟩ := mem_candidates h
  have valid : ∀ name ∈ init ++ [last], name.IsSegment := fun name mem =>
    isSegment_of_mem_names (names ▸ mem)
  have relative := isAbsolute_ofNames valid
  -- the first byte is one of the names, whatever is added behind them
  have begun : (ofNames (init ++ [last])).bytes ≠ [] := by
    intro empty
    have none := names_ofNames valid
    rw [show ofNames (init ++ [last]) = ⟨[]⟩ from congrArg Path.mk empty] at none
    simp [Path.names, Path.components, Path.segments, segmentsOf, componentsOf] at none
  obtain ⟨b, rest, bytes⟩ := List.exists_cons_of_ne_nil begun
  rw [← append_ofNames]
  simpa [isAbsolute, append, bytes] using relative

/-- What can be cleaned up goes to the page of its name below the output directory. -/
theorem steps_targetIn_of_cleaned (absolute : output.isAbsolute)
    (relative : source.isAbsolute = false) (clean : source.cleaned? ≠ none) :
    (output.targetIn source).isAbsolute
      ∧ (output.targetIn source).steps = output.steps ++ source.pagePlace.map .normal
      ∧ source.pagePlace ≠ [] := by
  obtain ⟨cleaned, isClean⟩ := Option.ne_none_iff_exists'.mp clean
  obtain ⟨downwards, nonempty, -⟩ := cleaned?_eq_some_iff.mp isClean
  obtain ⟨init, last, names⟩ := (List.eq_nil_or_concat' source.names).resolve_left nonempty
  have ending :
      (output.join source).steps = (output.steps ++ init.map .normal) ++ [.normal last] := by
    rw [steps_join output relative, steps_eq_names downwards, names]
    simp
  have isName : last ∈ source.names := by simp [names]
  have segment : last.page.IsSegment := (isSegment_of_mem_names isName).page
  obtain ⟨stillAbsolute, replaced⟩ :=
    steps_withExtension (isAbsolute_join absolute source) ending segment
  refine ⟨stillAbsolute, ?_, by simp [pagePlace, names]⟩
  rw [targetIn, replaced]
  simp [pagePlace, names, Name.page]

/-- A place on the way to a target is on the way to the output directory, or one of the directories
in it that the target is in. -/
theorem mem_passes_of_below {target : Path} {names : List Name} {place : Place}
    (absolute : output.isAbsolute) (steps : target.steps = output.steps ++ names.map .normal)
    (nonempty : names ≠ []) (mem : place ∈ target.passes) :
    place ∈ wayOf output.steps
      ∨ ∃ above, above <+: names ∧ above ≠ names ∧ place = output.place ++ above := by
  obtain ⟨init, last, rfl⟩ := (List.eq_nil_or_concat' names).resolve_left nonempty
  rw [passes, steps, List.map_append, List.map_singleton, ← List.append_assoc, List.dropLast_concat]
    at mem
  obtain ⟨front, before, rfl⟩ := mem_wayOf.mp mem
  rcases List.prefix_or_prefix_of_prefix before (List.prefix_append ..) with above | ⟨inner, rfl⟩
  · exact .inl (mem_wayOf.mpr ⟨front, above, rfl⟩)
  · rw [List.prefix_append_right_inj] at before
    obtain ⟨names, isPrefix, rfl⟩ : ∃ names, names <+: init ∧ inner = names.map .normal := by
      obtain ⟨rest, split⟩ := before
      obtain ⟨names, others, rfl, same, -⟩ := List.append_eq_map_iff.mp split
      exact ⟨names, List.prefix_append .., same.symm⟩
    refine .inr ⟨names, isPrefix.trans (List.prefix_append ..), ?_, ?_⟩
    · rintro rfl
      have shorter := isPrefix.length_le
      simp only [List.length_append, List.length_singleton] at shorter
      omega
    · rw [List.foldl_append, foldl_walk_normal, place_of_isAbsolute absolute]

end Path

/-! ## Section 2: What is not looked up -/

namespace Session

variable {R : Type} {language : ScriptLanguage R} {session : Session R} {base : FileSystem}
  {documents : List String} {logical : String} {source : Path}

/-- The paths that a session looks up for documents, and for their layouts and partials. -/
def LooksUp (session : Session R) (documents : List String) (path : Path) : Prop :=
  session.renderer.LooksUp path
    ∨ ∃ logical ∈ documents, ∃ file ∈ session.candidates logical,
      session.renderer.root.join file = path

/-- The files of some documents. -/
def sourcesOf (session : Session R) (fs : FileSystem) (documents : List String) : List Path :=
  documents.filterMap (session.source? fs)

/-- Nothing that a session looks up for some documents leads to one of their targets. A path with
steps upwards, as an extension can make it, meets the ways to targets only in directories that are
there already. -/
structure Disjoint (session : Session R) (fs : FileSystem) (documents : List String) : Prop where
  elsewhere : ∀ source ∈ session.sourcesOf fs documents, ∀ path, session.LooksUp documents path →
    (session.target source).place ≠ path.place
  upwards : ∀ source ∈ session.sourcesOf fs documents, ∀ path, session.LooksUp documents path →
    ¬ path.IsPlain → ∀ place ∈ Path.wayOf path.steps,
      place ∈ Path.wayOf (session.target source).steps → fs.entry? place = some .directory

/-- Documents whose targets have nothing to do with what is looked up, differ, and are not below one
another. -/
structure Apart (session : Session R) (fs : FileSystem) (documents : List String) : Prop where
  disjoint : session.Disjoint fs documents
  distinct : (session.sourcesOf fs documents).Pairwise fun a b =>
    (session.target a).place ≠ (session.target b).place
  unnested : ∀ a ∈ session.sourcesOf fs documents, ∀ b ∈ session.sourcesOf fs documents,
    (session.target a).place <+: (session.target b).place →
      (session.target a).place = (session.target b).place

/-- The targets of documents that can be drawn. -/
def IsTarget (session : Session R) (fs : FileSystem) (documents : List String) (target : Path) :
    Prop :=
  ∃ source ∈ session.sourcesOf fs documents, source.cleaned? ≠ none ∧ target = session.target source

theorem sourcesOf_subset {fs : FileSystem} {some : List String} (subset : some ⊆ documents) :
    session.sourcesOf fs some ⊆ session.sourcesOf fs documents := by
  intro source mem
  obtain ⟨logical, isDocument, isSource⟩ := List.mem_filterMap.mp mem
  exact List.mem_filterMap.mpr ⟨logical, subset isDocument, isSource⟩

theorem LooksUp.mono {some : List String} {path : Path} (subset : some ⊆ documents)
    (looksUp : session.LooksUp some path) : session.LooksUp documents path :=
  looksUp.imp_right fun ⟨logical, isDocument, file⟩ => ⟨logical, subset isDocument, file⟩

/-- The same of some of the documents. -/
theorem Disjoint.mono {fs : FileSystem} {some : List String}
    (disjoint : session.Disjoint fs documents) (subset : some ⊆ documents) : session.Disjoint fs some where
  elsewhere source mem path looksUp :=
    disjoint.elsewhere source (sourcesOf_subset subset mem) path (looksUp.mono subset)
  upwards source mem path looksUp :=
    disjoint.upwards source (sourcesOf_subset subset mem) path (looksUp.mono subset)

/-- The same of some of the documents. -/
theorem Apart.sublist {fs : FileSystem} {some : List String} (apart : session.Apart fs documents)
    (sublist : some.Sublist documents) : session.Apart fs some where
  disjoint := apart.disjoint.mono sublist.subset
  distinct := apart.distinct.sublist (sublist.filterMap _)
  unnested a mem b mem' := apart.unnested a (sourcesOf_subset sublist.subset mem) b
    (sourcesOf_subset sublist.subset mem')

/-- Extensions without separators lead to no target from outside the output directory, if that is
apart from the layouts and partials. -/
theorem Disjoint.of_outputApart {fs : FileSystem} (loaded : session.IsLoaded)
    (unbroken : ∀ e ∈ session.renderer.extensions, '/' ∉ e.toList)
    (apart : session.config.OutputApart)
    (outside : ∀ logical ∈ documents, ∀ file ∈ session.candidates logical,
      ¬ session.config.build.output.place <+: (session.renderer.root.join file).place) :
    session.Disjoint fs documents := by
  have unbroken' : ∀ e ∈ session.config.build.extensions, '/' ∉ e.toList :=
    loaded.follows.extensions ▸ unbroken
  have row {source : Path} (mem : source ∈ session.sourcesOf fs documents) : source.IsRow := by
    obtain ⟨logical, -, isSource⟩ := List.mem_filterMap.mp mem
    exact isRow_of_source? unbroken isSource
  have plain {path : Path} (looksUp : session.LooksUp documents path) : path.IsPlain := by
    rcases looksUp with
      ⟨directory, mem, name, file, candidate, rfl⟩ | ⟨logical, -, file, candidate, rfl⟩
    · exact (Renderer.reads_of_mem_candidates loaded.isPlaced unbroken mem candidate).1
    · obtain ⟨names, -, valid, rfl⟩ := isRow_of_mem_candidates unbroken candidate
      exact (Path.join_ofNames loaded.isPlaced.root valid).1
  refine ⟨fun source mem path looksUp same => ?_, fun source mem path looksUp notPlain =>
    absurd (plain looksUp) notPlain⟩
  rcases looksUp with
    ⟨directory, isDirectory, name, file, candidate, rfl⟩ | ⟨logical, isDocument, file, candidate, rfl⟩
  · refine apart.not_reads_target loaded.resolved.isAbsolute loaded.follows unbroken' (row mem) ?_
    rw [show (session.config.build.output.targetIn source).place = _ from same]
    exact (Renderer.reads_of_mem_candidates loaded.isPlaced unbroken isDirectory candidate).2
  · refine outside logical isDocument file candidate ?_
    rw [← same, target, (Config.place_targetIn_of_isRow loaded.resolved.output (row mem)).1]
    exact List.prefix_append ..

theorem isAbsolute_of_mem_sourcesOf {fs : FileSystem}
    (h : source ∈ session.sourcesOf fs documents) : source.isAbsolute = false := by
  obtain ⟨logical, -, isSource⟩ := List.mem_filterMap.mp h
  exact Path.isAbsolute_of_mem_candidates (Resources.mem_candidates_of_resolve isSource).1

section

variable (loaded : session.IsLoaded)

include loaded

theorem steps_target (mem : source ∈ session.sourcesOf base documents)
    (clean : source.cleaned? ≠ none) :
    (session.target source).isAbsolute
      ∧ (session.target source).steps
          = session.config.build.output.steps ++ source.pagePlace.map .normal
      ∧ source.pagePlace ≠ [] :=
  Path.steps_targetIn_of_cleaned loaded.resolved.output (isAbsolute_of_mem_sourcesOf mem) clean

theorem place_target (mem : source ∈ session.sourcesOf base documents)
    (clean : source.cleaned? ≠ none) :
    (session.target source).place = session.config.build.output.place ++ source.pagePlace := by
  obtain ⟨absolute, steps, -⟩ := steps_target loaded mem clean
  rw [Path.place_of_isAbsolute absolute, steps, List.foldl_append, Path.foldl_walk_normal,
    Path.place_of_isAbsolute loaded.resolved.output]

/-- The way to a target has a last step. -/
theorem exists_steps_target (mem : source ∈ session.sourcesOf base documents)
    (clean : source.cleaned? ≠ none) :
    (session.target source).isAbsolute
      ∧ ∃ front last, (session.target source).steps = front ++ [last] := by
  obtain ⟨absolute, steps, nonempty⟩ := steps_target loaded mem clean
  obtain ⟨init, last, names⟩ := (List.eq_nil_or_concat' source.pagePlace).resolve_left nonempty
  refine ⟨absolute, session.config.build.output.steps ++ init.map .normal, .normal last, ?_⟩
  rw [steps, names, List.map_append, List.map_singleton, List.append_assoc]

theorem accepts_target_iff (tree : base.IsTree) (mem : source ∈ session.sourcesOf base documents)
    (clean : source.cleaned? ≠ none) :
    base.Accepts (session.target source) ↔ base.Admits (session.target source) := by
  obtain ⟨absolute, front, last, ending⟩ := exists_steps_target loaded mem clean
  exact FileSystem.accepts_iff_admits tree absolute ending

/-- If no target is below another, none that is admitted is on the way to another. -/
theorem Apart.not_mem_passes (apart : session.Apart base documents) :
    ∀ t t', session.IsTarget base documents t → session.IsTarget base documents t' →
      base.Admits t → t.place ∉ t'.passes := by
  rintro t t' ⟨source, mem, clean, rfl⟩ ⟨other, mem', clean', rfl⟩ admits passed
  obtain ⟨-, steps, nonempty⟩ := steps_target loaded mem clean
  obtain ⟨-, steps', nonempty'⟩ := steps_target loaded mem' clean'
  rcases Path.mem_passes_of_below loaded.resolved.output steps' nonempty' passed with
    onWay | ⟨above, isPrefix, differs, place⟩
  · -- the way to the output directory is a part of the way to the target itself
    refine admits.apart (Path.wayOf_subset ?_ onWay)
    obtain ⟨init, last, names⟩ := (List.eq_nil_or_concat' source.pagePlace).resolve_left nonempty
    rw [steps, names, List.map_append, List.map_singleton, ← List.append_assoc,
      List.dropLast_concat]
    exact List.prefix_append ..
  · have place' := place_target loaded mem' clean'
    have same := apart.unnested source mem other mem' (by
      rw [place, place']
      exact (List.prefix_append_right_inj _).mpr isPrefix)
    rw [place, place'] at same
    exact differs (List.append_cancel_left same)

variable {fs : FileSystem} (disjoint : session.Disjoint base documents) (tree : base.IsTree)
  (gains : base.Gains (session.IsTarget base documents) fs)

include disjoint tree gains

/-- What is looked up is alike, whatever targets have been tried. -/
theorem Disjoint.alike {path : Path} (looksUp : session.LooksUp documents path) :
    base.Alike fs path := by
  have absolute : path.isAbsolute := by
    rcases looksUp with ⟨directory, -, name, file, -, rfl⟩ | ⟨logical, -, file, -, rfl⟩
    · exact Path.isAbsolute_join loaded.isPlaced.root.absolute _
    · exact Path.isAbsolute_join loaded.isPlaced.root.absolute _
  refine gains.alike tree ?_ absolute ?_ ?_
  · rintro t ⟨source, mem, clean, rfl⟩
    exact (steps_target loaded mem clean).1
  · rintro t ⟨source, mem, clean, rfl⟩
    exact disjoint.elsewhere source mem path looksUp
  · rintro plain t ⟨source, mem, clean, rfl⟩
    exact disjoint.upwards source mem path looksUp plain

/-- A document has the file that it had. -/
theorem Disjoint.source?_eq (isDocument : logical ∈ documents) :
    session.source? base logical = session.source? fs logical :=
  (Resources.resolve_congr_of_alike fun file candidate =>
    (disjoint.alike loaded tree gains (.inr ⟨logical, isDocument, file, candidate, rfl⟩)).resources).1

/-- What a file stands for exactly is alike as well. -/
theorem Disjoint.alike_exact (mem : source ∈ session.sourcesOf base documents) :
    ∀ file ∈ source.candidates [""], base.Alike fs (session.renderer.root.join file) := by
  intro file candidate
  obtain ⟨init, last, e, isBlank, downwards, names, rfl⟩ := Path.mem_candidates candidate
  obtain rfl := List.mem_singleton.mp isBlank
  have exact : init ++ [last ++ Name.ofString ""] = source.names := by simp [names, Name.ofString]
  rw [exact]
  obtain ⟨plain, place⟩ := Path.join_ofNames loaded.isPlaced.root
    fun name mem => Path.isSegment_of_mem_names (p := source) mem
  have same : (session.renderer.root.join source).place
      = (session.renderer.root.join (Path.ofNames source.names)).place := by
    rw [place, Path.place_join loaded.isPlaced.root.absolute (isAbsolute_of_mem_sourcesOf mem)
      downwards]
  obtain ⟨logical, isDocument, isSource⟩ := List.mem_filterMap.mp mem
  have looksUp : session.LooksUp documents (session.renderer.root.join source) :=
    .inr ⟨logical, isDocument, source, (Resources.mem_candidates_of_resolve isSource).1, rfl⟩
  refine gains.alike tree ?_ plain.absolute ?_ fun notPlain => absurd plain notPlain
  · rintro t ⟨other, mem', clean, rfl⟩
    exact (steps_target loaded mem' clean).1
  · rintro t ⟨other, mem', clean, rfl⟩
    rw [← same]
    exact disjoint.elsewhere other mem' _ looksUp

/-- A file is rendered to the same page. -/
theorem Disjoint.renderPath_eq (language : ScriptLanguage R)
    (mem : source ∈ session.sourcesOf base documents) (registry : Registry R) :
    ((session.renderer.pipeline language base).renderPath source session.vars).runFrom registry
      = ((session.renderer.pipeline language fs).renderPath source session.vars).runFrom registry :=
  Renderer.renderPath_congr_of_alike language
    (fun _ looksUp => disjoint.alike loaded tree gains (.inl looksUp))
    (disjoint.alike_exact loaded tree gains mem) session.vars registry

end

/-! ## Section 3: One document among others -/

/-- What is drawn for a document on the files as they are. -/
def draw (language : ScriptLanguage R) (session : Session R) (fs : FileSystem) (logical : String) :
    Step (Registry R) DocumentError String := fun registry =>
  match session.source? fs logical with
  | none => (.error (.notFound logical), registry)
  | some source =>
      let (result, registry) :=
        ((session.renderer.pipeline language fs).renderPath source session.vars).runFrom registry
      (result.mapError .render, registry)

theorem runFrom_draw (language : ScriptLanguage R) (session : Session R) (fs : FileSystem)
    (logical : String) (registry : Registry R) :
    (session.draw language fs logical).runFrom registry
      = match session.source? fs logical with
        | none => (.error (.notFound logical), registry)
        | some source =>
            let rendered :=
              ((session.renderer.pipeline language fs).renderPath source session.vars).runFrom registry
            (rendered.1.mapError .render, rendered.2) := by
  show session.draw language fs logical registry = _
  unfold draw
  cases session.source? fs logical <;> rfl

/-- Only what can be cleaned up is rendered. -/
theorem cleaned_of_renderPath {S : Type} {p : Pipeline S} {vars : Variables} {s s' : S}
    {page : String} (h : (p.renderPath source vars).runFrom s = (.ok page, s')) : source.cleaned? ≠ none := by
  intro none
  unfold Pipeline.renderPath at h
  rw [Resources.resolve_of_cleaned?_eq_none none] at h
  cases h

/-- What becomes of a document whose target is tried on files that may have more than those of
`base`. -/
inductive Ends (session : Session R) (base : FileSystem) (logical : String)
    (drawn : Except DocumentError String) (fs : FileSystem) :
    Except DocumentError Unit → FileSystem → Prop
  | undrawn {e : DocumentError} (failed : drawn = .error e) :
      Ends session base logical drawn fs (.error e) fs
  | written {source : Path} {page : String} {fs' : FileSystem}
      (isSource : session.source? base logical = some source) (isPage : drawn = .ok page)
      (admits : base.Admits (session.target source))
      (file? : ∀ place, fs'.file? place = if place = (session.target source).place
        then some page.toByteArray else fs.file? place) :
      Ends session base logical drawn fs (.ok ()) fs'
  | refused {source : Path} {page : String} {e : DocumentError} {fs' : FileSystem}
      (isSource : session.source? base logical = some source) (isPage : drawn = .ok page)
      (refuses : ¬ base.Admits (session.target source))
      (file? : ∀ place, fs'.file? place = fs.file? place) :
      Ends session base logical drawn fs (.error e) fs'

/-- Rendering one of the documents, whichever targets have been tried before: what is drawn is what
would have been drawn on the files of `base`, and its target is written if it was admitted there. -/
theorem exists_ends_renderDocument (language : ScriptLanguage R) {w : Workspace (Registry R)}
    (loaded : session.IsLoaded) (disjoint : session.Disjoint base documents) (tree : base.IsTree)
    (apart : ∀ t t', session.IsTarget base documents t → session.IsTarget base documents t' →
      base.Admits t → t.place ∉ t'.passes)
    (gains : base.Gains (session.IsTarget base documents) w.fs) (isDocument : logical ∈ documents) :
    let drawn := (session.draw language base logical).runFrom w.compilers
    ∃ result fs', (renderDocument (session.renderer.pipeline language) session.config.build.output
          session.vars logical).runFrom w = (result, { w with fs := fs', compilers := drawn.2 })
      ∧ session.Ends base logical drawn.1 w.fs result fs'
      ∧ base.Gains (session.IsTarget base documents) fs' := by
  intro drawn
  have lookup : (session.renderer.pipeline language w.fs).resolve (Path.ofString logical)
      = session.source? base logical := (disjoint.source?_eq loaded tree gains isDocument).symm
  unfold renderDocument
  rw [Step.runFrom_get_bind, lookup]
  cases isSource : session.source? base logical with
  | none =>
    have nothing : drawn = (.error (.notFound logical), w.compilers) := by
      simp only [drawn, runFrom_draw, isSource]
    rw [nothing]
    exact ⟨_, _, rfl, .undrawn rfl, gains⟩
  | some source =>
    have mem : source ∈ session.sourcesOf base documents :=
      List.mem_filterMap.mpr ⟨logical, isDocument, isSource⟩
    have draws := disjoint.renderPath_eq loaded tree gains language mem w.compilers
    cases rendered : ((session.renderer.pipeline language base).renderPath source
        session.vars).runFrom w.compilers with
    | mk result compilers =>
      rw [rendered] at draws
      have isDrawn : drawn = (result.mapError .render, compilers) := by
        simp only [drawn, runFrom_draw, isSource, rendered]
      have clean (page : String) (isPage : result = .ok page) : source.cleaned? ≠ none :=
        cleaned_of_renderPath (isPage ▸ rendered)
      have ends (page : String) (isPage : result = .ok page) :
          (session.target source).isAbsolute
            ∧ ∃ front last, (session.target source).steps = front ++ [last] :=
        exists_steps_target loaded mem (clean page isPage)
      obtain ⟨ended, fs', run, attempt⟩ := attempt_renderTo gains.tree draws.symm ends
      -- a target that is tried is admitted just if it was on the files of `base`
      have tried (page : String) (isPage : result = .ok page) :
          session.IsTarget base documents (session.target source)
            ∧ (w.fs.Admits (session.target source) ↔ base.Admits (session.target source)) := by
        have isTarget : session.IsTarget base documents (session.target source) :=
          ⟨source, mem, clean page isPage, rfl⟩
        exact ⟨isTarget, gains.admits_iff isTarget apart⟩
      have gained := gains.attempt tried attempt
      rw [isDrawn]
      refine ⟨ended, fs', run, ?_, gained⟩
      cases attempt with
      | undrawn failed => exact .undrawn (by rw [show result = _ from failed]; rfl)
      | written isPage admits writes makesWay =>
        exact .written isSource (by rw [show result = _ from isPage]; rfl)
          ((tried _ isPage).2.mp admits) writes.file?
      | refused isPage refuses grows makesWay =>
        exact .refused isSource (by rw [show result = _ from isPage]; rfl)
          (mt (tried _ isPage).2.mpr refuses) grows.file?

end Session

end Folio
