import Folio.Proofs.Build.Document
import Folio.Proofs.Build.Listing

/-!
# The documents of a build

The documents of a site are files below its root. None of them is in the output directory, if that
is outside the root or told by its spelling, so no target is a document. Planning gives every
document its target and refuses two documents with the same one.

Main definitions:
- `Config.OutputApart`: where the output directory is
- `Config.OutputCleared`, `Config.TargetsApart`: what depends on how it is spelled

Main statements:
- `Targets.plan_eq_ok`
- `Config.TargetsApart.of_output`
- `Config.prefix_root_of_mem_documents`: no document is in a skipped directory below the root
-/

namespace Folio

/-! ## Section 1: Planning -/

namespace Targets

variable {output : Path} {planned targets : List (Path × Path)} {documents : List Path}

theorem planAfter_eq_ok (h : planAfter output planned documents = .ok targets) :
    targets = planned ++ documents.map (fun d => (d, output.targetIn d))
      ∧ (planned.Pairwise (fun a b => ¬ a.2.equiv b.2) →
          targets.Pairwise fun a b => ¬ a.2.equiv b.2) := by
  -- on the documents, for any that have been planned before
  induction documents generalizing planned with
  | nil =>
    obtain rfl := Except.ok.inj h
    exact ⟨by simp, id⟩
  | cons document rest ih =>
    simp only [planAfter] at h
    split at h
    · cases h
    · rename_i free
      obtain ⟨targets', pairwise⟩ := ih h
      refine ⟨by simp [targets'], fun before => pairwise ?_⟩
      rw [List.pairwise_append]
      refine ⟨before, List.pairwise_singleton .., fun a mem b isLast => ?_⟩
      obtain rfl := List.mem_singleton.mp isLast
      have differs := List.find?_eq_none.mp free a mem
      simpa [Path.equiv, eq_comm] using differs

/-- A plan has every document with its target, in order, and no target twice. -/
theorem plan_eq_ok (h : plan output documents = .ok targets) :
    targets = documents.map (fun d => (d, output.targetIn d))
      ∧ documents.Pairwise fun a b => ¬ (output.targetIn a).equiv (output.targetIn b) := by
  obtain ⟨targets', pairwise⟩ := planAfter_eq_ok h
  have apart := pairwise .nil
  rw [targets', List.nil_append, List.pairwise_map] at apart
  exact ⟨targets', apart⟩

end Targets

/-! ## Section 2: Documents -/

namespace Config

variable {config : Config} {fs : FileSystem} {document : Path}

/-- A document is a row of names, and the file there is below the root. -/
theorem mem_documents (tree : fs.IsTree) (h : document ∈ config.documents fs) :
    ∃ names, names ≠ [] ∧ (∀ name ∈ names, name.IsSegment) ∧ document = Path.ofNames names
      ∧ config.Reaches [] names := by
  obtain ⟨place, names, content, -, nonempty, file, reaches, -, rfl⟩ := (mem_documents_iff tree).mp h
  refine ⟨names, nonempty, fun name inNames => ?_, rfl, reaches⟩
  exact (tree.valid_of_isEntry file name (List.mem_append_right _ inNames)).toIsSegment

theorem isRow_of_mem_documents (tree : fs.IsTree) (h : document ∈ config.documents fs) :
    document.IsRow := by
  obtain ⟨names, nonempty, valid, spelled, -⟩ := mem_documents tree h
  exact ⟨names, nonempty, valid, spelled⟩

/-! ## Section 3: The output directory -/

/-- The output directory is not the root or above it, and apart from the directories of layouts and
partials. -/
structure OutputApart (config : Config) : Prop where
  root : ¬ config.build.output.place <+: config.build.root.place
  above : ∀ directory ∈ [config.build.layouts, config.build.includes],
    ¬ config.build.output.place <+: (config.build.root.join directory).place
  below : ∀ directory ∈ [config.build.layouts, config.build.includes],
    ¬ (config.build.root.join directory).place <+: config.build.output.place

/-- Nothing stays in an output directory that is to be cleared: the path to it leads somewhere, or
there is nothing in it. A path that steps upwards leads nowhere while a directory on its way is
missing. -/
def OutputCleared (config : Config) (fs : FileSystem) : Prop :=
  config.build.clean → (∃ place, fs.locate config.build.output = .ok place)
    ∨ ∀ place, config.build.output.place <+: place → fs.file? place = none

/-- An output directory that is spelled without steps upwards is cleared. -/
theorem OutputCleared.of_isPlain (tree : fs.IsTree) (plain : config.build.output.IsPlain) :
    config.OutputCleared fs := by
  intro _
  by_cases nothing : ∀ place, config.build.output.place <+: place → fs.file? place = none
  · exact .inr nothing
  · push Not at nothing
    obtain ⟨place, ⟨names, rfl⟩, file⟩ := nothing
    exact .inl ⟨_, tree.locate_of_file? plain file⟩

/-- No target is a document. -/
def TargetsApart (config : Config) (fs : FileSystem) : Prop :=
  ∀ document ∈ config.documents fs, ∀ other ∈ config.documents fs,
    (config.build.output.targetIn document).place ≠ (config.build.root.join other).place

/-- A target is a place below the output directory. -/
theorem place_targetIn_of_isRow {output : Path} (absolute : output.isAbsolute) (row : document.IsRow) :
    (output.targetIn document).place = output.place ++ document.pagePlace
      ∧ document.pagePlace ≠ [] := by
  obtain ⟨names, nonempty, valid, rfl⟩ := row
  exact ⟨Path.place_targetIn absolute nonempty valid, Path.pagePlace_ne_nil nonempty valid⟩

/-- No target is a layout or a partial. -/
theorem OutputApart.not_reads_target {R : Type} {renderer : Renderer R} (apart : config.OutputApart)
    (absolute : config.IsAbsolute) (follows : renderer.Follows config)
    (unbroken : ∀ e ∈ config.build.extensions, '/' ∉ e.toList) (row : document.IsRow) :
    ¬ renderer.Reads (config.build.output.targetIn document).place := by
  obtain ⟨place, nonempty⟩ := place_targetIn_of_isRow absolute.output row
  have directories : renderer.directories = [config.build.layouts, config.build.includes] := by
    rw [Renderer.directories, follows.layouts, follows.includes]
  rw [place]
  refine Renderer.not_reads_below (follows.root ▸ absolute.root) ?_ ?_ ?_ ?_ nonempty
  · rw [directories]
    exact fun _ => absolute.relative
  · rw [directories, follows.root]
    exact apart.above
  · rw [directories, follows.root]
    exact apart.below
  · rw [follows.extensions]
    exact unbroken

/-- A document is in a skipped directory only if the root is in it. -/
theorem prefix_root_of_mem_documents (tree : fs.IsTree) (plain : config.build.root.IsPlain)
    (h : document ∈ config.documents fs) {directory : Path}
    (skipped : directory ∈ config.skippedDirectories) (plain' : directory.IsPlain)
    (inside : directory.place <+: (config.build.root.join document).place) :
    directory.place <+: config.build.root.place := by
  obtain ⟨names, nonempty, valid, rfl, reached⟩ := mem_documents tree h
  rw [(Path.join_ofNames plain valid).2] at inside
  by_contra outside
  -- then the directory is on the way from the root to the document, where it was compared
  obtain ⟨walked, spelled⟩ : config.build.root.place <+: directory.place :=
    (List.prefix_or_prefix_of_prefix inside (List.prefix_append ..)).resolve_left outside
  have begins : walked <+: names := by
    rw [← spelled] at inside
    exact (List.prefix_append_right_inj _).mp inside
  have walkedNonempty : walked ≠ [] := by
    rintro rfl
    exact outside (by simp [← spelled])
  have walkedValid : ∀ name ∈ walked, name.IsSegment := fun name mem =>
    valid name (begins.subset mem)
  have notSkipped := (reaches_iff.mp reached).2 walked walkedNonempty begins directory skipped
  obtain ⟨walkedPlain, place⟩ := Path.join_ofNames plain walkedValid
  rw [walkedPlain.equiv_iff_place plain', place] at notSkipped
  exact notSkipped spelled

/-- No document is in the output directory. -/
theorem not_prefix_of_mem_documents (tree : fs.IsTree) (plain : config.build.root.IsPlain)
    (apart : config.OutputApart)
    (told : config.build.output.IsPlain
      ∨ ¬ config.build.root.place <+: config.build.output.place)
    (h : document ∈ config.documents fs) :
    ¬ config.build.output.place <+: (config.build.root.join document).place := by
  intro inside
  rcases told with output | outside
  · have skipped : config.build.output ∈ config.skippedDirectories := by simp [skippedDirectories]
    exact apart.root (prefix_root_of_mem_documents tree plain h skipped output inside)
  · obtain ⟨names, -, valid, rfl, -⟩ := mem_documents tree h
    rw [(Path.join_ofNames plain valid).2] at inside
    -- one of the two is above the other
    rcases List.prefix_or_prefix_of_prefix inside (List.prefix_append ..) with above | below
    · exact apart.root above
    · exact outside below

/-- No target is a document if the output directory is outside the root, or is spelled without steps
upwards, as the directories are that the documents are looked for in. -/
theorem TargetsApart.of_output (tree : fs.IsTree) (resolved : config.IsResolved)
    (apart : config.OutputApart)
    (told : config.build.output.IsPlain
      ∨ ¬ config.build.root.place <+: config.build.output.place) : config.TargetsApart fs := by
  intro document mem other otherMem same
  refine not_prefix_of_mem_documents tree resolved.isPlain_root apart told otherMem ?_
  rw [← same, (place_targetIn_of_isRow resolved.output (isRow_of_mem_documents tree mem)).1]
  exact List.prefix_append ..

end Config

end Folio
