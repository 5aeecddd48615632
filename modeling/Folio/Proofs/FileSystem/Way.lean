import Folio.Proofs.FileSystem.Tree
import Folio.Proofs.Path.Target
import Mathlib.Data.List.Infix

/-!
# The way of a path

An absolute path is followed from the root, step by step, and every place that it leads through has
to be a directory. The way can lead down and up again, so it is told by the steps of the path and not
by its place.

Main definitions:
- `Path.wayOf`: the places that steps lead to
- `Path.passes`: the places that a path leads through

Main statements:
- `Path.parent?_of_isAbsolute`: the parent of a path has one step less
- `FileSystem.follow_of_directories`, `FileSystem.directories_of_follow`: when steps lead somewhere
- `FileSystem.find_congr`: what a path leads to depends on its way alone
-/

namespace Folio

/-! ## Section 1: The way of a path -/

namespace Path

variable {p q : Path} {steps front : List Component} {last : Component} {place : Place}

/-- The places that steps from the root lead to, one after the other. -/
def wayOf (steps : List Component) : List Place :=
  steps.inits.map fun front => front.foldl Component.walk []

/-- The places that a path leads through to its own. -/
def passes (p : Path) : List Place := wayOf p.steps.dropLast

theorem mem_wayOf :
    place ∈ wayOf steps ↔ ∃ front, front <+: steps ∧ front.foldl Component.walk [] = place := by
  simp [wayOf, List.mem_inits]

theorem foldl_walk_mem_wayOf (steps : List Component) : steps.foldl Component.walk [] ∈ wayOf steps :=
  mem_wayOf.mpr ⟨steps, List.prefix_rfl, rfl⟩

theorem wayOf_subset (h : front <+: steps) : wayOf front ⊆ wayOf steps := by
  intro place mem
  obtain ⟨begun, before, rfl⟩ := mem_wayOf.mp mem
  exact mem_wayOf.mpr ⟨begun, before.trans h, rfl⟩

/-- A further step leads to one more place. -/
theorem mem_wayOf_concat :
    place ∈ wayOf (front ++ [last])
      ↔ place ∈ wayOf front ∨ place = last.walk (front.foldl Component.walk []) := by
  simp only [mem_wayOf, List.prefix_concat_iff]
  constructor
  · rintro ⟨begun, rfl | before, rfl⟩
    · exact .inr (by simp)
    · exact .inl ⟨begun, before, rfl⟩
  · rintro (⟨begun, before, rfl⟩ | rfl)
    · exact ⟨begun, .inr before, rfl⟩
    · exact ⟨_, .inl rfl, by simp⟩

/-- The last of the places is where the steps lead. -/
theorem mem_wayOf_iff : place ∈ wayOf steps
    ↔ place ∈ wayOf steps.dropLast ∨ place = steps.foldl Component.walk [] := by
  obtain rfl | ⟨front, last, rfl⟩ := List.eq_nil_or_concat' steps
  · simp [wayOf]
  · rw [List.dropLast_concat, mem_wayOf_concat]
    simp

theorem root_not_mem_steps (p : Path) : Component.root ∉ p.steps := by
  intro mem
  obtain h | ⟨name, h, -⟩ := mem_steps mem
  · cases h
  · cases h

/-! ## Section 2: The parent of a path -/

theorem segments_of_isAbsolute (absolute : p.isAbsolute) :
    ∃ rest, p.segments = [] :: rest ∧ p.steps = rest.filterMap componentOf? := by
  obtain ⟨bytes, rfl⟩ := isAbsolute_iff.mp absolute
  have segments : segmentsOf (Name.slash :: bytes) = [] :: segmentsOf bytes :=
    segmentsOf_append_slash [] bytes
  exact ⟨segmentsOf bytes, segments, by simp [steps, Path.segments, segments, componentOf?]⟩

/-- Segments behind an empty one spell an absolute path. -/
theorem ofSegments_root {rest : List Name} (unbroken : ∀ segment ∈ rest, Name.slash ∉ segment) :
    (ofSegments ([] :: rest)).isAbsolute
      ∧ (ofSegments ([] :: rest)).steps = rest.filterMap componentOf? := by
  cases rest with
  | nil => exact ⟨rfl, rfl⟩
  | cons first more =>
    have spelled : ofSegments ([] :: first :: more)
        = ⟨[Name.slash].intercalate ([] :: first :: more)⟩ := rfl
    have unbroken' : ∀ segment ∈ [] :: first :: more, Name.slash ∉ segment := by
      intro segment mem
      rcases List.mem_cons.mp mem with rfl | mem
      · simp
      · exact unbroken segment mem
    rw [spelled]
    refine ⟨by simp [isAbsolute, List.intercalate_cons_cons], ?_⟩
    rw [steps, Path.segments, segmentsOf_intercalate (by simp) unbroken',
      List.filterMap_cons_none (by rfl)]

/-- The parent of an absolute path is what is before its last step, and the root has none. -/
theorem parent?_of_isAbsolute (absolute : p.isAbsolute) :
    (p.steps = [] ∧ p.parent? = none)
      ∨ ∃ q, p.steps ≠ [] ∧ p.parent? = some q ∧ q.isAbsolute ∧ q.steps = p.steps.dropLast := by
  obtain ⟨rest, segments, stepsEq⟩ := segments_of_isAbsolute absolute
  rw [← filterMap_trimEnd] at stepsEq
  have unbroken : ∀ segment ∈ rest, Name.slash ∉ segment := by
    intro segment mem
    have inside : segment ∈ p.segments := segments ▸ List.mem_cons_of_mem _ mem
    exact slash_not_mem_of_mem_segmentsOf inside
  obtain empty | ⟨front, last, trimmed⟩ := List.eq_nil_or_concat' (trimEnd rest)
  · left
    refine ⟨by simp [stepsEq, empty], ?_⟩
    simp [parent?, segments, trimSegments, empty]
  · right
    -- the segment at the end means a step
    obtain ⟨step, meaning⟩ := Option.ne_none_iff_exists'.mp (componentOf?_of_trimEnd trimmed)
    rw [trimmed, List.filterMap_append, List.filterMap_cons_some meaning, List.filterMap_nil]
      at stepsEq
    have kept : trimEnd front ⊆ rest := fun segment mem =>
      trimEnd_subset rest (trimmed ▸ List.mem_append_left _ (trimEnd_subset front mem))
    obtain ⟨isAbsolute, steps⟩ := ofSegments_root fun segment mem => unbroken segment (kept mem)
    refine ⟨ofSegments ([] :: trimEnd front), by simp [stepsEq], ?_, isAbsolute, ?_⟩
    · have dropped : ([] :: (front ++ [last])).dropLast = [] :: front := by
        rw [← List.cons_append, List.dropLast_concat]
      unfold parent?
      rw [segments, trimSegments, trimmed]
      cases front with
      | nil => rfl
      | cons first more =>
        show some (ofSegments (trimSegments ([] :: (first :: more ++ [last])).dropLast)) = _
        rw [dropped, trimSegments]
    · rw [steps, filterMap_trimEnd, stepsEq, List.dropLast_concat]

end Path

namespace FileSystem

variable {fs fs' : FileSystem} {p : Path} {steps front : List Component} {last : Component}
  {place : Place}

/-! ## Section 3: Following steps from the root -/

/-- Steps whose names are those that directories can hold. -/
def ValidSteps (steps : List Component) : Prop := ∀ name, .normal name ∈ steps → name.IsValid

theorem ValidSteps.of_concat (valid : ValidSteps (front ++ [last])) : ValidSteps front :=
  fun name mem => valid name (List.mem_append_left _ mem)

theorem follow_concat (fs : FileSystem) (front : List Component) (last : Component) :
    fs.follow [] (front ++ [last]) = (fs.follow [] front).bind (fs.follow · [last]) :=
  fs.follow_append [] front [last]

/-- Steps lead on as long as there are directories on the way. -/
theorem follow_of_directories
    (directories : ∀ place ∈ Path.wayOf steps.dropLast, fs.entry? place = some .directory)
    (valid : ValidSteps steps) : fs.follow [] steps = .ok (steps.foldl Component.walk []) := by
  -- on the steps from the end, since the last step starts where the others lead
  induction steps using List.reverseRecOn with
  | nil => rfl
  | append_singleton init last ih =>
    rw [List.dropLast_concat] at directories
    have before := ih (fun place mem =>
      directories place (Path.wayOf_subset (List.dropLast_prefix init) mem)) valid.of_concat
    have onward : fs.follow (init.foldl Component.walk []) [last]
        = .ok (last.walk (init.foldl Component.walk [])) :=
      follow_step (directories _ (Path.foldl_walk_mem_wayOf init))
        fun name same => (valid name (by simp [same])).short
    rw [follow_concat, before, List.foldl_append]
    exact onward

/-- If steps lead somewhere, there are directories on the way. -/
theorem directories_of_follow (noRoot : .root ∉ steps) (h : fs.follow [] steps = .ok place) :
    (∀ place ∈ Path.wayOf steps.dropLast, fs.entry? place = some .directory)
      ∧ ∀ name, .normal name ∈ steps → name.length ≤ maxName := by
  induction steps using List.reverseRecOn generalizing place with
  | nil =>
    refine ⟨fun place mem => ?_, by simp⟩
    obtain rfl : place = [] := by simpa [Path.wayOf] using mem
    exact entry?_nil fs
  | append_singleton init last ih =>
    rw [follow_concat] at h
    cases before : fs.follow [] init with
    | error e => simp [before, Except.bind] at h
    | ok between =>
      rw [before] at h
      obtain ⟨rfl, directory, short⟩ := follow_step_eq_ok h
      obtain ⟨directories, shorts⟩ := ih (fun mem => noRoot (List.mem_append_left _ mem)) before
      have notRoot : last ≠ .root := fun same => noRoot (by simp [same])
      rw [follow_eq_ok before] at directory
      refine ⟨fun place mem => ?_, fun name mem => ?_⟩
      · rw [List.dropLast_concat] at mem
        rcases Path.mem_wayOf_iff.mp mem with mem | rfl
        · exact directories place mem
        · exact directory.resolve_left notRoot
      · rcases List.mem_append.mp mem with mem | mem
        · exact shorts name mem
        · exact short name (List.mem_singleton.mp mem).symm

/-- If there is no file on the way, steps can only fail for want of a directory. -/
theorem notFound_of_follow {e : IoError}
    (clear : ∀ place ∈ Path.wayOf steps.dropLast, fs.file? place = none) (valid : ValidSteps steps)
    (noRoot : .root ∉ steps) (h : fs.follow [] steps = .error e) : e = .notFound := by
  induction steps using List.reverseRecOn with
  | nil => cases h
  | append_singleton init last ih =>
    rw [follow_concat] at h
    rw [List.dropLast_concat] at clear
    cases before : fs.follow [] init with
    | error e' =>
      rw [before] at h
      obtain rfl : e' = e := by simpa [Except.bind] using h
      exact ih (fun place mem => clear place (Path.wayOf_subset (List.dropLast_prefix init) mem))
        valid.of_concat (fun mem => noRoot (List.mem_append_left _ mem)) before
    | ok between =>
      rw [before] at h
      change fs.follow between [last] = .error e at h
      obtain rfl := follow_eq_ok before
      have noFile := clear _ (Path.foldl_walk_mem_wayOf init)
      cases here : fs.entry? (init.foldl Component.walk []) with
      | none =>
        cases last with
        | root => exact absurd (by simp) noRoot
        | current | parent | normal => simpa [follow, here, eq_comm] using h
      | some entry =>
        cases entry with
        | file content => simp [file?, here] at noFile
        | directory =>
          rw [follow_step here fun name same => (valid name (by simp [same])).short] at h
          cases h

/-- What leads to a directory are directories. -/
theorem directories_of_isDirectory (absolute : p.isAbsolute) (h : fs.isDirectory p) :
    ∀ place ∈ Path.wayOf p.steps, fs.entry? place = some .directory := by
  obtain ⟨place, located, directory⟩ := isDirectory_iff.mp h
  rw [locate_of_isAbsolute absolute (locate_noNul located)] at located
  have directories := (directories_of_follow p.root_not_mem_steps located).1
  obtain rfl := follow_eq_ok located
  intro other mem
  rcases Path.mem_wayOf_iff.mp mem with mem | rfl
  · exact directories other mem
  · exact directory

theorem noNul_of_validSteps (valid : ValidSteps p.steps) : p.bytes.contains 0 = false := by
  rw [Bool.eq_false_iff]
  intro nul
  obtain ⟨name, mem, inName⟩ := Path.exists_mem_names_of_mem_bytes (List.contains_iff_mem.mp nul)
    (by decide) (by decide)
  rw [Path.names_eq_steps, List.mem_filterMap] at mem
  obtain ⟨step, inSteps, named⟩ := mem
  cases step with
  | normal other =>
    obtain rfl : other = name := by simpa [Component.name?] using named
    exact (valid other inSteps).noNul inName
  | root | current | parent => cases named

theorem locate_of_validSteps (absolute : p.isAbsolute) (valid : ValidSteps p.steps) :
    fs.locate p = fs.follow [] p.steps :=
  locate_of_isAbsolute absolute (noNul_of_validSteps valid)

/-- A path that leads somewhere has steps whose names directories can hold. -/
theorem validSteps_of_locate (absolute : p.isAbsolute) (h : fs.locate p = .ok place) :
    ValidSteps p.steps := by
  have noNul := locate_noNul h
  rw [locate_of_isAbsolute absolute noNul] at h
  have short := (directories_of_follow p.root_not_mem_steps h).2
  intro name mem
  have inComponents : .normal name ∈ p.components := by
    rw [Path.components_eq_root_steps absolute]
    exact List.mem_cons_of_mem _ mem
  refine ⟨Path.isSegment_of_mem_components inComponents, fun nul => ?_, short name mem⟩
  have inBytes := Path.mem_bytes_of_mem_components inComponents nul
  simp_all

/-! ## Section 4: What a path leads to -/

/-- Where steps lead depends on what is on the way. -/
theorem follow_congr
    (same : ∀ place ∈ Path.wayOf steps.dropLast, fs'.entry? place = fs.entry? place)
    (noRoot : .root ∉ steps) : fs'.follow [] steps = fs.follow [] steps := by
  induction steps using List.reverseRecOn with
  | nil => rfl
  | append_singleton init last ih =>
    rw [List.dropLast_concat] at same
    have before := ih
      (fun place mem => same place (Path.wayOf_subset (List.dropLast_prefix init) mem))
      (fun mem => noRoot (List.mem_append_left _ mem))
    rw [follow_concat, follow_concat, before]
    cases followed : fs.follow [] init with
    | error e => rfl
    | ok place =>
      obtain rfl := follow_eq_ok followed
      have here := same _ (Path.foldl_walk_mem_wayOf init)
      show fs'.follow _ [last] = fs.follow _ [last]
      cases last with
      | root => rfl
      | current | parent | normal => simp only [follow, here]

/-- What an absolute path leads to depends on what is on its way and at its end. -/
theorem find_congr (absolute : p.isAbsolute)
    (same : ∀ place ∈ Path.wayOf p.steps, fs'.entry? place = fs.entry? place) :
    fs'.find p = fs.find p := by
  have located : fs'.locate p = fs.locate p := by
    by_cases noNul : p.bytes.contains 0
    · simp only [locate, noNul, if_true]
    · rw [Bool.not_eq_true] at noNul
      rw [locate_of_isAbsolute absolute noNul, locate_of_isAbsolute absolute noNul]
      exact follow_congr
        (fun place mem => same place (Path.wayOf_subset (List.dropLast_prefix _) mem))
        p.root_not_mem_steps
  unfold find
  rw [located]
  cases there : fs.locate p with
  | error e => rfl
  | ok place =>
    obtain rfl := locate_eq_ok absolute there
    dsimp only
    rw [Path.place_of_isAbsolute absolute, same _ (Path.foldl_walk_mem_wayOf _)]

end FileSystem

end Folio
