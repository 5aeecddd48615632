import Folio.Build.Targets
import Folio.Proofs.Path.Steps

/-!
# Where targets are

Replacing the extension of a file name leaves the steps before it alone. The target of a document is
therefore in the directory below the output that the document is in below the root, under a name of
its own.

Main definitions:
- `Name.page`: the name of a page
- `Path.pagePlace`: the names of a page below the output directory

Main statements: `Path.steps_withExtension`, `Path.steps_targetIn`, `Path.targetIn_equiv_iff`.
-/

namespace Folio

/-! ## Section 1: Names without their extension -/

namespace Path

/-- The stem of a name begins it, and is empty only with it. -/
theorem splitExtension_stem (name : Name) :
    (splitExtension name).1 <+: name ∧ ((splitExtension name).1 = [] → name = []) := by
  unfold splitExtension
  dsimp only
  split
  · exact ⟨List.prefix_rfl, id⟩
  · rename_i nonempty
    refine ⟨List.take_prefix .., fun empty => ?_⟩
    simp only [Bool.or_eq_true, decide_eq_true_eq, not_or] at nonempty
    exact absurd empty nonempty.2

end Path

/-- A name with its extension replaced. -/
def Name.withExtension (name : Name) (extension : String) : Name :=
  (Path.splitExtension name).1 ++ Name.dot :: Name.ofString extension

/-- The name of the page of a document with a name. -/
def Name.page (name : Name) : Name := name.withExtension pageExtension

theorem Name.IsSegment.withExtension {name : Name} (h : name.IsSegment) {extension : String}
    (unbroken : Name.slash ∉ Name.ofString extension)
    (nonempty : ∃ b ∈ Name.ofString extension, b ≠ Name.dot) :
    (name.withExtension extension).IsSegment := by
  obtain ⟨stem, stemEmpty⟩ := Path.splitExtension_stem name
  obtain ⟨b, mem, notDot⟩ := nonempty
  -- a byte other than a dot tells the name from a step
  have letter : b ∈ name.withExtension extension := by simp [Name.withExtension, mem]
  refine ⟨?_, Path.componentOf?_eq_normal_iff.mpr ⟨?_, ?_, ?_⟩⟩
  · simp only [Name.withExtension, List.mem_append, List.mem_cons, not_or]
    exact ⟨fun slash => h.unbroken (stem.subset slash), by decide, unbroken⟩
  · exact List.ne_nil_of_mem letter
  · intro dot
    simp [dot, notDot] at letter
  · intro dots
    simp [dots, notDot] at letter

theorem Name.IsSegment.page {name : Name} (h : name.IsSegment) : name.page.IsSegment :=
  h.withExtension (by decide) ⟨0x68, by decide, by decide⟩

/-! ## Section 2: Segments without what means nothing at the end -/

namespace Path

theorem filterMap_trimEnd (rest : List Name) :
    (trimEnd rest).filterMap componentOf? = rest.filterMap componentOf? := by
  -- what is dropped has no meaning
  have dropped (segments : List Name) :
      (segments.dropWhile fun s => (componentOf? s).isNone).filterMap componentOf?
        = segments.filterMap componentOf? := by
    induction segments with
    | nil => rfl
    | cons first more ih =>
      cases meaning : componentOf? first with
      | none => simp [meaning, ih]
      | some step => simp [meaning]
  rw [trimEnd, List.filterMap_reverse, dropped, List.filterMap_reverse, List.reverse_reverse]

theorem trimEnd_subset (rest : List Name) : trimEnd rest ⊆ rest := by
  intro segment mem
  rw [trimEnd, List.mem_reverse] at mem
  exact List.mem_reverse.mp ((List.dropWhile_sublist _).subset mem)

/-- What is left has a meaning at its end. -/
theorem componentOf?_of_trimEnd {rest init : List Name} {last : Name}
    (h : trimEnd rest = init ++ [last]) : componentOf? last ≠ none := by
  have reversed : (rest.reverse.dropWhile fun s => (componentOf? s).isNone)
      = last :: init.reverse := by
    have twice := congrArg List.reverse h
    rw [trimEnd, List.reverse_reverse] at twice
    simpa using twice
  have kept := List.head_dropWhile_not (fun s => (componentOf? s).isNone)
    (l := rest.reverse) (by simp [reversed])
  simpa [reversed, Option.isSome_iff_ne_none] using kept

/-- The last step of a path is replaced, and the others stay. -/
theorem steps_withExtension {p : Path} (absolute : p.isAbsolute) {init : List Component}
    {name : Name} (ending : p.steps = init ++ [.normal name]) {extension : String}
    (segment : (name.withExtension extension).IsSegment) :
    (p.withExtension extension).isAbsolute
      ∧ (p.withExtension extension).steps = init ++ [.normal (name.withExtension extension)] := by
  obtain ⟨bytes, rfl⟩ := isAbsolute_iff.mp absolute
  have segments : segmentsOf (Name.slash :: bytes) = [] :: segmentsOf bytes :=
    segmentsOf_append_slash [] bytes
  have fileName : fileName? ⟨Name.slash :: bytes⟩ = some name := by
    simp [fileName?, components_eq_root_steps absolute, ending, List.getLast?_cons, Component.name?]
  have stepsEq : (trimEnd (segmentsOf bytes)).filterMap componentOf? = init ++ [.normal name] := by
    rw [filterMap_trimEnd, ← ending]
    simp [steps, Path.segments, segments, componentOf?]
  obtain empty | ⟨front, last, trimmed⟩ := List.eq_nil_or_concat' (trimEnd (segmentsOf bytes))
  · simp [empty] at stepsEq
  · -- the segment at the end is the file name
    have meaning : componentOf? last = some (.normal name) ∧ front.filterMap componentOf? = init := by
      cases meaning : componentOf? last with
      | none => exact absurd meaning (componentOf?_of_trimEnd trimmed)
      | some step =>
        rw [trimmed, List.filterMap_append, List.filterMap_cons_some meaning] at stepsEq
        obtain ⟨before, same⟩ := List.append_inj' stepsEq rfl
        exact ⟨by simpa using same, before⟩
    -- the segments of the new path are those of the old one, and the new name
    have unbroken : ∀ s ∈ [] :: (front ++ [name.withExtension extension]), Name.slash ∉ s := by
      intro s mem
      simp only [List.mem_cons, List.mem_append, List.not_mem_nil, or_false] at mem
      rcases mem with rfl | mem | rfl
      · simp
      · have kept : s ∈ trimEnd (segmentsOf bytes) := by simp [trimmed, mem]
        exact slash_not_mem_of_mem_segmentsOf (trimEnd_subset _ kept)
      · exact segment.unbroken
    have front' : (trimSegments (segmentsOf (Name.slash :: bytes))).dropLast = [] :: front := by
      rw [segments, trimSegments, trimmed, ← List.cons_append, List.dropLast_concat]
    have replaced : (withExtension ⟨Name.slash :: bytes⟩ extension)
        = ⟨[Name.slash].intercalate ([] :: (front ++ [name.withExtension extension]))⟩ := by
      rw [withExtension, fileName]
      simp [Path.segments, front', Name.withExtension]
    rw [replaced]
    constructor
    · cases front <;> simp [isAbsolute, List.intercalate_cons_cons]
    · rw [steps, Path.segments, segmentsOf_intercalate (by simp) unbroken,
        List.filterMap_cons_none (by rfl), List.filterMap_append, meaning.2,
        List.filterMap_cons_some segment.named]
      rfl

/-! ## Section 3: Targets -/

/-- The names that lead from the output directory to the page of a document. -/
def pagePlace (document : Path) : List Name :=
  document.names.dropLast ++ (document.names.getLast?.map Name.page).toList

variable {output : Path} {names : List Name}

theorem pagePlace_ofNames {init : List Name} {last : Name}
    (valid : ∀ name ∈ init ++ [last], name.IsSegment) :
    (ofNames (init ++ [last])).pagePlace = init ++ [last.page] := by
  simp [pagePlace, names_ofNames valid]

theorem pagePlace_ne_nil (nonempty : names ≠ []) (valid : ∀ name ∈ names, name.IsSegment) :
    (ofNames names).pagePlace ≠ [] := by
  obtain rfl | ⟨init, last, rfl⟩ := List.eq_nil_or_concat' names
  · contradiction
  · simp [pagePlace_ofNames valid]

/-- The target of a document is the page of its name below the output directory. -/
theorem steps_targetIn (absolute : output.isAbsolute) (nonempty : names ≠ [])
    (valid : ∀ name ∈ names, name.IsSegment) :
    (output.targetIn (ofNames names)).isAbsolute
      ∧ (output.targetIn (ofNames names)).steps
          = output.steps ++ (ofNames names).pagePlace.map .normal := by
  obtain rfl | ⟨init, last, rfl⟩ := List.eq_nil_or_concat' names
  · contradiction
  · -- the last step to the document below the output directory is to its name
    have ending : (output.join (ofNames (init ++ [last]))).steps
        = (output.steps ++ init.map .normal) ++ [.normal last] := by
      rw [steps_join output (isAbsolute_ofNames valid), steps_ofNames valid]
      simp
    have segment : last.page.IsSegment := (valid last (by simp)).page
    obtain ⟨stillAbsolute, replaced⟩ :=
      steps_withExtension (isAbsolute_join absolute _) ending segment
    refine ⟨stillAbsolute, ?_⟩
    rw [targetIn, replaced, pagePlace_ofNames valid]
    simp [Name.page]

theorem place_targetIn (absolute : output.isAbsolute) (nonempty : names ≠ [])
    (valid : ∀ name ∈ names, name.IsSegment) :
    (output.targetIn (ofNames names)).place = output.place ++ (ofNames names).pagePlace := by
  obtain ⟨stillAbsolute, steps⟩ := steps_targetIn absolute nonempty valid
  rw [place_of_isAbsolute stillAbsolute, steps, List.foldl_append, foldl_walk_normal,
    place_of_isAbsolute absolute]

/-- Targets are told apart by the names below the output directory. -/
theorem targetIn_equiv_iff (absolute : output.isAbsolute) {names' : List Name}
    (nonempty : names ≠ []) (nonempty' : names' ≠ []) (valid : ∀ name ∈ names, name.IsSegment)
    (valid' : ∀ name ∈ names', name.IsSegment) :
    (output.targetIn (ofNames names)).equiv (output.targetIn (ofNames names'))
      ↔ (ofNames names).pagePlace = (ofNames names').pagePlace := by
  obtain ⟨isAbsolute, steps⟩ := steps_targetIn absolute nonempty valid
  obtain ⟨isAbsolute', steps'⟩ := steps_targetIn absolute nonempty' valid'
  have injective : Function.Injective Component.normal := fun _ _ h => Component.normal.inj h
  rw [equiv_iff_steps isAbsolute isAbsolute', steps, steps', List.append_cancel_left_eq,
    (List.map_injective_iff.mpr injective).eq_iff]

end Path

end Folio
