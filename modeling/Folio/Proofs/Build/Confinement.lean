import Folio.Proofs.Build.Attempt
import Folio.Proofs.Build.Sources

/-!
# Where a build writes

A build can end at any of its stages, and documents that are being rendered when another one fails
may still be written. Whatever becomes of them, files change below the output directory alone, and a
file there is an old one or the whole page of a document.

Main definitions:
- `Place.IsBelow`
- `Renderer.Tries`: rendering documents to their targets, whether or not some fail
- `Renderer.Origin`: where a file below the output directory comes from

Main statements:
- `Renderer.Tried.page_eq`: when a document has the same page at every moment
- `confined_of_buildSiteBy`: what a build changes, however it ends
-/

namespace Folio

/-! ## Section 1: Below a directory -/

/-- A place is below another one. -/
def Place.IsBelow (place directory : Place) : Prop := directory <+: place ∧ place ≠ directory

namespace FileSystem

variable {fs fs' : FileSystem} {p root : Path} {names : List Name}

/-- What a path that leads to the file at its place is read as depends on that file alone. -/
theorem LeadsToFile.alike (leads : fs.LeadsToFile p) (leads' : fs'.LeadsToFile p)
    (absolute : p.isAbsolute) (same : fs.file? p.place = fs'.file? p.place) : fs.Alike fs' p := by
  have both {place : Place} {content : ByteArray} :
      fs.find p = .ok (place, .file content) ↔ fs'.find p = .ok (place, .file content) := by
    rw [leads.find_eq_file_iff absolute, leads'.find_eq_file_iff absolute, same]
  refine ⟨?_, fun isFile => ?_⟩
  · rw [Bool.eq_iff_iff, isFile_iff, isFile_iff]
    simp only [both]
  · obtain ⟨place, content, here⟩ := isFile_iff.mp isFile
    rw [readText, readText, readBytes, readBytes, here, both.mp here]

/-- A row of names below a directory leads to the file at its place, however the directory is
spelled. -/
theorem leadsToFile_join (tree : fs.IsTree) (absolute : root.isAbsolute)
    (located : fs.locate root = .ok root.place) (valid : ∀ name ∈ names, name.IsSegment) :
    fs.LeadsToFile (root.join (Path.ofNames names)) := by
  intro file
  have relative : (Path.ofNames names).isAbsolute = false := Path.isAbsolute_ofNames valid
  rw [Path.place_join_ofNames absolute valid] at file ⊢
  obtain ⟨content, isFile⟩ := Option.ne_none_iff_exists'.mp file
  have isEntry := file?_eq_some_iff.mp isFile
  have steps : (root.join (Path.ofNames names)).steps = root.steps ++ names.map .normal := by
    rw [Path.steps_join root relative, Path.steps_ofNames valid]
  -- a byte of zero would be in a name of the directory or in one below it
  have noNul : (root.join (Path.ofNames names)).bytes.contains 0 = false := by
    rw [Bool.eq_false_iff]
    intro nul
    obtain ⟨name, mem, inName⟩ := Path.exists_mem_names_of_mem_bytes (List.contains_iff_mem.mp nul)
      (by decide) (by decide)
    rw [Path.names_eq_steps, steps, List.filterMap_append, ← Path.names_eq_steps, List.mem_append]
      at mem
    rcases mem with inRoot | below
    · obtain ⟨step, inComponents, meaning⟩ := List.mem_filterMap.mp inRoot
      obtain rfl : step = .normal name := by
        cases step <;> simp_all [Component.name?]
      have inBytes := Path.mem_bytes_of_mem_components inComponents inName
      have noNul := locate_noNul located
      simp_all
    · have isName : name ∈ names := by simpa [Component.name?] using below
      exact (tree.valid_of_isEntry isEntry name (List.mem_append_right _ isName)).noNul inName
  have followed : fs.follow [] root.steps = .ok root.place := by
    rw [← locate_of_isAbsolute absolute (locate_noNul located), located]
  rw [locate_of_isAbsolute (Path.isAbsolute_join absolute _) noNul, steps, follow_append, followed]
  exact tree.follow_names (by simp [isEntry])

end FileSystem

/-! ## Section 2: Rendering documents whether or not some fail -/

namespace Renderer

variable {R : Type} {language : ScriptLanguage R} {renderer : Renderer R} {output : Path}
  {sources : List Path} {source : Path} {base w w' : Workspace (Registry R)}

/-- What comes about when documents are rendered to their targets in any order, whether or not some
fail, and when the user is told of it. -/
inductive Tries (language : ScriptLanguage R) (renderer : Renderer R) (output : Path)
    (sources : List Path) (base : Workspace (Registry R)) : Workspace (Registry R) → Prop
  | start : Tries language renderer output sources base base
  | next {w : Workspace (Registry R)} (before : Tries language renderer output sources base w)
      {source : Path} (mem : source ∈ sources) :
      Tries language renderer output sources base
        ((renderTo (renderer.pipeline language) source (output.targetIn source) .empty).runFrom w).2
  | told {w : Workspace (Registry R)} (before : Tries language renderer output sources base w)
      (notices : List Notice) :
      Tries language renderer output sources base { w with notices }

theorem Tries.trans (first : renderer.Tries language output sources base w)
    (second : renderer.Tries language output sources w w') :
    renderer.Tries language output sources base w' := by
  induction second with
  | start => exact first
  | next _ mem ih => exact ih.next mem
  | told _ notices ih => exact ih.told notices

section

open Step (Keeps keeps_pure)

theorem keeps_tell {ε : Type} (notice : Notice) :
    Keeps (renderer.Tries language output sources base)
      (Work.tell notice : Work (Registry R) ε Unit) :=
  fun _ tries => tries.told _

theorem keeps_buildDocument (mem : source ∈ sources) :
    Keeps (renderer.Tries language output sources base)
      (buildDocument (renderer.pipeline language) source (output.targetIn source)) := by
  intro w tries
  have next := tries.next mem
  show renderer.Tries language output sources base
    ((buildDocument (renderer.pipeline language) source (output.targetIn source)) w).2
  unfold buildDocument
  cases run : (renderTo (renderer.pipeline language) source (output.targetIn source)
      .empty).run.run w with
  | mk result w₁ =>
    rw [Step.runFrom, run] at next
    cases result with
    | ok done => exact next
    | error e => exact next.told _

theorem keeps_buildDocuments {targets : List (Path × Path)}
    (planned : ∀ t ∈ targets, ∃ d ∈ sources, (d, output.targetIn d) = t) :
    Keeps (renderer.Tries language output sources base)
      (buildDocuments (renderer.pipeline language) targets) := by
  induction targets with
  | nil => exact keeps_pure _
  | cons first rest ih =>
    obtain ⟨source, mem, rfl⟩ := planned first List.mem_cons_self
    exact (keeps_buildDocument mem).bind fun _ =>
      ih fun t inRest => planned t (List.mem_cons_of_mem _ inRest)

/-- After the output directory has been prepared, or could not be, a build does no more than to try
the documents that there are then. -/
theorem tries_buildSiteBy {config : Config} {schedule : List (Path × Path) → List (Path × Path)}
    (scheduled : ∀ targets, schedule targets ⊆ targets) {result : Except BuildError Unit}
    {prepared : Workspace (Registry R)}
    (preparing : (prepareOutput config.build.output config.build.clean).runFrom w
      = (result, prepared)) :
    renderer.Tries language config.build.output (config.documents prepared.fs) prepared
      ((buildSiteBy schedule (renderer.pipeline language) config).runFrom w).2 := by
  unfold buildSiteBy
  dsimp only
  cases result with
  | error e =>
    rw [Step.runFrom_bind_error preparing]
    exact .start
  | ok done =>
    rw [Step.runFrom_bind_ok preparing, Step.runFrom_get_bind]
    cases plan : Targets.plan config.build.output (config.documents prepared.fs) with
    | error found => exact .start
    | ok targets =>
      obtain ⟨rfl, -⟩ := Targets.plan_eq_ok plan
      have documents : Keeps
          (renderer.Tries language config.build.output (config.documents prepared.fs) prepared)
          (buildDocuments (renderer.pipeline language) (schedule
            ((config.documents prepared.fs).map fun d => (d, config.build.output.targetIn d)))) :=
        keeps_buildDocuments fun t mem => List.mem_map.mp (scheduled _ mem)
      -- between two notices, the documents are rendered
      exact ((keeps_tell _).bind fun _ => documents.bind fun _ =>
        (keeps_tell _).bind fun _ => keeps_pure _) prepared .start

end

end Renderer

/-! ## Section 3: What an attempt changes -/

/-- An attempt leaves all files, or it writes the whole page at the target. -/
theorem Attempt.file? {drawn : Except RenderError String} {target : Path} {fs fs' : FileSystem}
    {result : Except DocumentError Unit} (attempt : Attempt drawn target fs result fs')
    (place : Place) : fs'.file? place = fs.file? place ∨ target.place = place
      ∧ ∃ page, drawn = .ok page ∧ fs'.file? place = some page.toByteArray := by
  cases attempt with
  | undrawn failed => exact .inl rfl
  | refused isPage refuses grows makesWay => exact .inl (grows.file? place)
  | @written page _ isPage admits writes makesWay =>
    by_cases here : place = target.place
    · exact .inr ⟨here.symm, page, isPage, (writes.file? place).trans (if_pos here)⟩
    · exact .inl ((writes.file? place).trans (if_neg here))

/-- An attempt leads from trees to trees, and loses no directory. -/
theorem Attempt.keeps {drawn : Except RenderError String} {target : Path} {fs fs' : FileSystem}
    {result : Except DocumentError Unit} (attempt : Attempt drawn target fs result fs') :
    (fs.IsTree → fs'.IsTree) ∧ fs.Keeps fs' ∧ fs'.workingDirectory = fs.workingDirectory := by
  cases attempt with
  | undrawn failed => exact ⟨id, fun _ => id, rfl⟩
  | refused isPage refuses grows makesWay =>
    exact ⟨grows.tree, grows.keeps, grows.workingDirectory⟩
  | written isPage admits writes makesWay =>
    exact ⟨writes.tree, writes.keeps, writes.workingDirectory⟩

namespace Renderer

variable {R : Type} {language : ScriptLanguage R} {renderer : Renderer R} {output : Path}
  {sources : List Path} {source : Path} {base w : Workspace (Registry R)}

/-- Rendering a row of names to its target is an attempt, and the compilers have converted what its
page is made of. -/
theorem exists_attempt (language : ScriptLanguage R) (renderer : Renderer R)
    (absolute : output.isAbsolute) (row : source.IsRow) (tree : w.fs.IsTree) :
    let drawn := ((renderer.pipeline language w.fs).renderPath source .empty).runFrom w.compilers
    ∃ result fs', ((renderTo (renderer.pipeline language) source (output.targetIn source)
        .empty).runFrom w).2 = { w with fs := fs', compilers := drawn.2 }
      ∧ Attempt drawn.1 (output.targetIn source) w.fs result fs' := by
  obtain ⟨names, nonempty, valid, rfl⟩ := row
  obtain ⟨isAbsolute, steps⟩ := Path.steps_targetIn absolute nonempty valid
  obtain ⟨init, last, inner⟩ := (List.eq_nil_or_concat' (Path.ofNames names).pagePlace).resolve_left
    (Path.pagePlace_ne_nil nonempty valid)
  have ending : (output.targetIn (Path.ofNames names)).steps
      = (output.steps ++ init.map .normal) ++ [.normal last] := by
    rw [steps, inner]
    simp
  obtain ⟨result, fs', run, attempt⟩ :=
    attempt_renderTo tree rfl fun _ _ => ⟨isAbsolute, _, _, ending⟩
  exact ⟨result, fs', congrArg Prod.snd run, attempt⟩

/-- What stays as it was while documents are tried. -/
structure Tried (language : ScriptLanguage R) (renderer : Renderer R) (output : Path)
    (sources : List Path) (base w : Workspace (Registry R)) : Prop where
  tree : w.fs.IsTree
  keeps : base.fs.Keeps w.fs
  workingDirectory : w.fs.workingDirectory = base.fs.workingDirectory
  history : (renderer.compilers language).History renderer.registry w.compilers
  other : ∀ place, (∀ source ∈ sources, (output.targetIn source).place ≠ place) →
    w.fs.file? place = base.fs.file? place

section

variable (functional : (renderer.compilers language).IsFunctional renderer.registry)
  (absolute : output.isAbsolute) (rows : ∀ source ∈ sources, source.IsRow) (tree : base.fs.IsTree)
  (history : (renderer.compilers language).History renderer.registry base.compilers)
  (tries : renderer.Tries language output sources base w)

include functional absolute rows tree history tries

theorem Tries.tried : renderer.Tried language output sources base w := by
  -- on the documents tried so far, each of which changes files as an attempt does
  induction tries with
  | start => exact ⟨tree, fun _ => id, rfl, history, fun _ _ => rfl⟩
  | told _ notices ih => exact ⟨ih.tree, ih.keeps, ih.workingDirectory, ih.history, ih.other⟩
  | @next w _ source mem ih =>
    obtain ⟨result, fs', after, attempt⟩ :=
      exists_attempt language renderer absolute (rows source mem) ih.tree
    rw [after]
    obtain ⟨trees, keeps, workingDirectory⟩ := attempt.keeps
    refine ⟨trees ih.tree, ih.keeps.trans keeps, workingDirectory.trans ih.workingDirectory,
      (page_of_history functional w.fs .empty source ih.history).2, fun place noTarget => ?_⟩
    rcases attempt.file? place with same | ⟨here, -⟩
    · exact same.trans (ih.other place noTarget)
    · exact absurd here (noTarget source mem)

/-- A file is an old one, or the whole page that a document had at some moment. -/
theorem Tries.old_or_page {place : Place} {content : ByteArray}
    (file : w.fs.file? place = some content) : base.fs.file? place = some content
      ∨ ∃ source ∈ sources, (output.targetIn source).place = place
        ∧ ∃ moment page, renderer.Tries language output sources base moment
          ∧ renderer.page language moment.fs .empty source = .ok page
          ∧ content = page.toByteArray := by
  induction tries with
  | start => exact .inl file
  | told _ notices ih => exact ih file
  | @next w before source mem ih =>
    have tried := before.tried functional absolute rows tree history
    obtain ⟨result, fs', after, attempt⟩ :=
      exists_attempt language renderer absolute (rows source mem) tried.tree
    rw [after] at file
    rcases attempt.file? place with same | ⟨here, page, drawn, written⟩
    · exact ih (same ▸ file)
    · -- what the compilers have converted before makes no difference to the page
      rw [(page_of_history functional w.fs .empty source tried.history).1] at drawn
      exact .inr ⟨source, mem, here, w, page, before, drawn,
        Option.some.inj (file.symm.trans written)⟩

end

/-! ## Section 4: Pages at every moment -/

section

variable {config : Config} (isAbsolute : config.IsAbsolute) (follows : renderer.Follows config)
  (apart : config.OutputApart) (unbroken : ∀ e ∈ config.build.extensions, '/' ∉ e.toList)
  (tree : base.fs.IsTree) (targets : config.TargetsApart base.fs)
  (tried : renderer.Tried language config.build.output (config.documents base.fs) base w)

include isAbsolute follows apart unbroken tree targets tried

/-- No target is read, so a document has the same page whatever documents have been tried. -/
theorem Tried.page_eq (mem : source ∈ config.documents base.fs) :
    renderer.page language w.fs .empty source = renderer.page language base.fs .empty source := by
  obtain ⟨place, names, content, found, nonempty, isEntry, -, -, rfl⟩ :=
    (Config.mem_documents_iff tree).mp mem
  have root : renderer.root.isAbsolute := follows.root ▸ isAbsolute.root
  have located : base.fs.locate renderer.root = .ok renderer.root.place := by
    rw [← follows.root] at found
    obtain ⟨located, -⟩ := FileSystem.find_eq_ok_iff.mp found
    rwa [← FileSystem.locate_eq_ok root located]
  -- the root is spelled in any way, but it leads to the same place at every moment
  have alike {names : List Name} (valid : ∀ name ∈ names, name.IsSegment)
      (same : w.fs.file? (renderer.root.join (Path.ofNames names)).place
        = base.fs.file? (renderer.root.join (Path.ofNames names)).place) :
      w.fs.Alike base.fs (renderer.root.join (Path.ofNames names)) :=
    (FileSystem.leadsToFile_join tried.tree root
      (tried.keeps.locate tried.workingDirectory located) valid).alike
        (FileSystem.leadsToFile_join tree root located valid) (Path.isAbsolute_join root _) same
  have unbroken' : ∀ e ∈ renderer.extensions, '/' ∉ e.toList := follows.extensions ▸ unbroken
  have directories : renderer.directories = [config.build.layouts, config.build.includes] := by
    rw [directories, follows.layouts, follows.includes]
  refine congrArg Prod.fst (renderPath_congr_of_alike language ?_ (fun file candidate => ?_) .empty
    renderer.registry)
  · rintro path ⟨directory, isDirectory, name, file, candidate, rfl⟩
    have relative := isAbsolute.relative (directories ▸ isDirectory)
    have inside := prefix_or_mem_candidates root relative unbroken' candidate
    obtain ⟨names, -, valid, rfl⟩ := Path.exists_names_of_mem_candidates unbroken' candidate
    refine alike valid (tried.other _ fun other isOther here => ?_)
    refine apart.not_reads_target isAbsolute follows unbroken
      (Config.isRow_of_mem_documents tree isOther) ?_
    rw [here]
    exact ⟨directory, isDirectory, inside.imp_right fun candidate => ⟨_, candidate, rfl⟩⟩
  · have valid : ∀ name ∈ names, name.IsSegment := fun name inNames =>
      (tree.valid_of_isEntry isEntry name (List.mem_append_right _ inNames)).toIsSegment
    rw [eq_of_mem_candidates_exact valid candidate]
    refine alike valid (tried.other _ fun other isOther here => ?_)
    rw [follows.root] at here
    exact targets other isOther _ mem here

end

end Renderer

/-! ## Section 5: A whole build -/

namespace FileSystem

variable {fs : FileSystem} {p : Path} {place : Place} {content : ByteArray}

/-- What an absolute path leads to is a directory, if there is a file below its place. -/
theorem isDirectory_of_file_below (tree : fs.IsTree) (below : place.IsBelow p.place)
    (file : fs.file? place = some content) (located : fs.locate p = .ok p.place) :
    fs.isDirectory p :=
  isDirectory_iff.mpr ⟨_, located, tree.directory_of_prefix below.1 (Ne.symm below.2)
    (by simp [file?_eq_some_iff.mp file])⟩

theorem locate_of_pathExists (absolute : p.isAbsolute) (present : fs.pathExists p) :
    fs.locate p = .ok p.place := by
  unfold pathExists at present
  split at present
  · rename_i found
    obtain ⟨located, -⟩ := find_eq_ok_iff.mp found
    rwa [← locate_eq_ok absolute located]
  · cases present

end FileSystem

/-- Preparing the output directory, whether it succeeds or fails, leaves the compilers alone. -/
theorem keeps_prepareOutput {S : Type} {P : S → Prop} (output : Path) (clean : Bool) :
    Step.Keeps (fun w => P w.compilers) (prepareOutput output clean : Work S BuildError Unit) := by
  unfold prepareOutput
  refine Step.Keeps.bind (fun _ holds => holds) fun w => ?_
  have created := Work.keeps_onFiles (P := P) (BuildError.notCreated output)
    fun fs => fs.createDirectories output
  split
  · exact (Work.keeps_onFiles _ _).bind fun _ => created
  · exact created

/-- Preparing the output directory, whether it succeeds or fails, takes away no file that is not
below it. A file below it stays, although it is to be cleared, only if the path to it steps upwards
and leads nowhere. -/
theorem prepareOutput_confined {S : Type} {output : Path} {clean : Bool} {w w' : Workspace S}
    {result : Except BuildError Unit} (absolute : output.isAbsolute) (tree : w.fs.IsTree)
    (h : (prepareOutput output clean).runFrom w = (result, w')) :
    (∀ place, ¬ place.IsBelow output.place → w'.fs.file? place = w.fs.file? place)
      ∧ ∀ place content, place.IsBelow output.place → w'.fs.file? place = some content →
          w.fs.file? place = some content
            ∧ (clean → ¬ w.fs.pathExists output ∧ ¬ output.IsPlain) := by
  obtain ⟨-, files⟩ := prepareOutput_leaves absolute w h
  refine ⟨fun place outside => ?_, fun place content below file => ?_⟩
  · rw [files place]
    split
    · -- then it is the place of the output directory itself
      rename_i cleared
      obtain ⟨-, isDirectory, inside⟩ := cleared
      obtain ⟨q, located, directory⟩ := FileSystem.isDirectory_iff.mp isDirectory
      obtain rfl := FileSystem.locate_eq_ok absolute located
      obtain rfl : place = output.place := by
        by_contra differs
        exact outside ⟨inside, differs⟩
      simp [FileSystem.file?, directory]
    · rfl
  · rw [files place] at file
    split at file
    · cases file
    · rename_i notCleared
      have lost (isClean : clean) : ¬ w.fs.locate output = .ok output.place := fun located =>
        notCleared ⟨isClean, FileSystem.isDirectory_of_file_below tree below file located, below.1⟩
      refine ⟨file, fun isClean => ⟨fun present => ?_, fun plain => ?_⟩⟩
      · exact lost isClean (FileSystem.locate_of_pathExists absolute present)
      · obtain ⟨names, spelled⟩ := below.1
        exact lost isClean (tree.locate_of_file? plain
          (spelled ▸ Option.ne_none_iff_exists'.mpr ⟨_, file⟩))

/-- A target is below the output directory. -/
theorem isBelow_targetIn {output document : Path} (absolute : output.isAbsolute)
    (row : document.IsRow) : Place.IsBelow (output.targetIn document).place output.place := by
  obtain ⟨spelled, nonempty⟩ := Config.place_targetIn_of_isRow absolute row
  rw [spelled]
  exact ⟨List.prefix_append .., by simpa using nonempty⟩

section

variable {R : Type} {language : ScriptLanguage R} {renderer : Renderer R} {config : Config}
  {schedule : List (Path × Path) → List (Path × Path)} {w : Workspace (Registry R)}

/-- Where a file below the output directory comes from. On the files `prepared`, the output
directory has been prepared and no document has been rendered. -/
inductive Renderer.Origin (language : ScriptLanguage R) (renderer : Renderer R) (config : Config)
    (w prepared : Workspace (Registry R)) (place : Place) (content : ByteArray) : Prop
  /-- It was there before. If the output directory is to be cleared, that is so only if the path to
  it steps upwards and leads nowhere. -/
  | earlier (same : w.fs.file? place = some content)
      (stays : config.build.clean →
        ¬ w.fs.pathExists config.build.output ∧ ¬ config.build.output.IsPlain)
  /-- It is the whole page that a document had at the moment when it was rendered, and that is the
  page that the document had before any was rendered, if no target is read. -/
  | page {document : Path} {moment : Workspace (Registry R)} {page : String}
      (mem : document ∈ config.documents prepared.fs)
      (here : (config.build.output.targetIn document).place = place)
      (tries : renderer.Tries language config.build.output (config.documents prepared.fs) prepared
        moment)
      (drawn : renderer.page language moment.fs .empty document = .ok page)
      (whole : content = page.toByteArray)
      (steady : config.OutputApart → (∀ e ∈ config.build.extensions, '/' ∉ e.toList) →
        config.TargetsApart prepared.fs →
        renderer.page language prepared.fs .empty document = .ok page)

/-- However a build ends, and whatever becomes of the documents that are then being rendered, no
file changes that is not below the output directory, and a file below it is an old one or the whole
page of a document at its target. -/
theorem confined_of_buildSiteBy (absolute : config.IsAbsolute) (follows : renderer.Follows config)
    (functional : (renderer.compilers language).IsFunctional renderer.registry)
    (history : (renderer.compilers language).History renderer.registry w.compilers)
    (tree : w.fs.IsTree) (scheduled : ∀ targets, schedule targets ⊆ targets) :
    let output := config.build.output
    let prepared := ((prepareOutput (S := Registry R) output config.build.clean).runFrom w).2
    let ended := ((buildSiteBy schedule (renderer.pipeline language) config).runFrom w).2
    ∀ after, renderer.Tries language output (config.documents prepared.fs) ended after →
      (∀ place, ¬ place.IsBelow output.place → after.fs.file? place = w.fs.file? place) ∧
      ∀ place content, place.IsBelow output.place → after.fs.file? place = some content →
        renderer.Origin language config w prepared place content := by
  intro output prepared ended after late
  obtain ⟨trees, -⟩ := prepareOutput_leaves absolute.output w (Prod.eta _).symm
  obtain ⟨outside, below⟩ := prepareOutput_confined absolute.output tree (Prod.eta _).symm
  have tree' : prepared.fs.IsTree := trees tree
  have history' : (renderer.compilers language).History renderer.registry prepared.compilers :=
    keeps_prepareOutput _ _ w history
  have rows : ∀ document ∈ config.documents prepared.fs, document.IsRow := fun document mem =>
    Config.isRow_of_mem_documents tree' mem
  -- the documents that are still being rendered go on where the build has ended
  have tries : renderer.Tries language output (config.documents prepared.fs) prepared after :=
    (Renderer.tries_buildSiteBy scheduled (Prod.eta _).symm).trans late
  have tried := tries.tried functional absolute.output rows tree' history'
  refine ⟨fun place notBelow => ?_, fun place content isBelow file => ?_⟩
  · rw [tried.other place, outside place notBelow]
    rintro document mem rfl
    exact notBelow (isBelow_targetIn absolute.output (rows document mem))
  · rcases tries.old_or_page functional absolute.output rows tree' history' file with
      old | ⟨document, mem, here, moment, page, before, drawn, whole⟩
    · obtain ⟨same, stays⟩ := below place content isBelow old
      exact .earlier same stays
    · refine .page mem here before drawn whole fun apart unbroken targets => ?_
      rw [← (before.tried functional absolute.output rows tree' history').page_eq absolute follows
        apart unbroken tree' targets mem]
      exact drawn

end

/-- A page, another one without its layout, and a file of an earlier build. -/
def pageWithoutLayout : FileSystem where
  entries := [([.ofString "w"], .directory),
    ([.ofString "w", .ofString "a.txt"], .file "x".toByteArray),
    ([.ofString "w", .ofString "b.txt"], .file "---\nlayout: l\n---\ny".toByteArray),
    ([.ofString "w", .ofString "public"], .directory),
    ([.ofString "w", .ofString "public", .ofString "old.css"], .file "z".toByteArray)]
  workingDirectory := [.ofString "w"]

/-- A build that fails at its last document, which it takes first, while the other one is being
rendered. -/
theorem confined_pageWithoutLayout :
    let w : Workspace (Registry Unit) :=
      { fs := pageWithoutLayout, compilers := defaultRenderer.registry }
    let run := (buildSiteBy List.reverse (defaultRenderer.pipeline .none) defaultConfig).runFrom w
    let target := defaultConfig.build.output.targetIn (.ofString "a.txt")
    let after := ((renderTo (defaultRenderer.pipeline .none) (.ofString "a.txt") target
      .empty).runFrom run.2).2
    let prepared :=
      ((prepareOutput (S := Registry Unit) defaultConfig.build.output false).runFrom w).2
    run.1.toOption = none ∧ run.2.fs.file? target.place = none
      ∧ after.fs.file? target.place = some "x".toByteArray
      ∧ (∀ place, ¬ place.IsBelow defaultConfig.build.output.place →
          after.fs.file? place = pageWithoutLayout.file? place)
      ∧ ∀ place content, place.IsBelow defaultConfig.build.output.place →
          after.fs.file? place = some content →
          defaultRenderer.Origin .none defaultConfig w prepared place content := by
  intro w run target after prepared
  have listed : Path.ofString "a.txt" ∈ defaultConfig.documents prepared.fs := by decide +kernel
  have confined := @confined_of_buildSiteBy Unit .none defaultRenderer defaultConfig List.reverse w
    ⟨by decide, by decide, by decide, by decide⟩ ⟨rfl, rfl, rfl, rfl⟩
    (Renderer.isFunctional_of_no_scripts rfl) .start (by decide +kernel)
    (fun targets => (List.reverse_perm targets).subset) after (Renderer.Tries.start.next listed)
  exact ⟨by decide +kernel, by decide +kernel, by decide +kernel, confined⟩

-- an output directory that is to be cleared stays, since the path to it leads nowhere
example :
    ((buildSite (defaultRenderer.pipeline .none)
      { upwardsConfig with build := { upwardsConfig.build with clean := true } }).runFrom
        { fs := pageWithoutLayout, compilers := defaultRenderer.registry }).2.fs.file?
          [.ofString "w", .ofString "public", .ofString "old.css"] = some "z".toByteArray := by
  decide +kernel

end Folio
