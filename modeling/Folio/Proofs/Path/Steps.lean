import Folio.Path
import Mathlib.Data.List.Basic

/-!
# Paths as steps

The spelling of a path is a row of segments between separators, and most segments are a step: to a
name or upwards. Putting paths together puts their steps together, whatever separators and dots the
spellings hold, so everything that is said about where a path leads is said about its steps.

Main definitions:
- `Path.steps`: the steps of a path
- `Path.place`: the names that the steps lead to from the root
- `Path.IsPlain`: an absolute path that does not step upwards

Main statements:
- `Path.components_eq_root_steps`: the meaning of an absolute path
- `Path.steps_join`, `Path.place_join`
-/

namespace Folio

/-! ## Section 1: Segments -/

namespace Path

theorem segmentsOf_ne_nil (bytes : List UInt8) : segmentsOf bytes ≠ [] := by
  cases bytes with
  | nil => simp [segmentsOf]
  | cons b rest =>
    unfold segmentsOf
    split
    · simp
    · split <;> simp

theorem slash_not_mem_of_mem_segmentsOf {bytes : List UInt8} {segment : Name}
    (h : segment ∈ segmentsOf bytes) : Name.slash ∉ segment := by
  -- on the bytes: a separator begins a segment, any other byte goes to the first one
  induction bytes generalizing segment with
  | nil => simp_all [segmentsOf]
  | cons b rest ih =>
    unfold segmentsOf at h
    split at h
    · rcases List.mem_cons.mp h with rfl | h
      · simp
      · exact ih h
    · rename_i notSlash
      split at h
      · rename_i none
        exact absurd none (segmentsOf_ne_nil rest)
      · rename_i first more split
        rw [split] at ih
        rcases List.mem_cons.mp h with rfl | h
        · simpa [Ne.symm notSlash] using ih List.mem_cons_self
        · exact ih (List.mem_cons_of_mem _ h)

theorem segmentsOf_eq_singleton {bytes : List UInt8} (h : Name.slash ∉ bytes) :
    segmentsOf bytes = [bytes] := by
  induction bytes with
  | nil => rfl
  | cons b rest ih =>
    simp only [List.mem_cons, not_or] at h
    rw [segmentsOf, if_neg (Ne.symm h.1), ih h.2]

theorem segmentsOf_append_slash (before after : List UInt8) :
    segmentsOf (before ++ Name.slash :: after) = segmentsOf before ++ segmentsOf after := by
  induction before with
  | nil => simp [segmentsOf]
  | cons b rest ih =>
    simp only [List.cons_append, segmentsOf, ih]
    split
    · simp
    · cases segments : segmentsOf rest with
      | nil => exact absurd segments (segmentsOf_ne_nil rest)
      | cons first more => simp

theorem segmentsOf_intercalate {segments : List Name} (nonempty : segments ≠ [])
    (unbroken : ∀ segment ∈ segments, Name.slash ∉ segment) :
    segmentsOf ([Name.slash].intercalate segments) = segments := by
  induction segments with
  | nil => contradiction
  | cons first rest ih =>
    cases rest with
    | nil =>
      rw [List.intercalate_singleton]
      exact segmentsOf_eq_singleton (unbroken first List.mem_cons_self)
    | cons second more =>
      -- the first segment ends at the separator behind it
      rw [List.intercalate_cons_cons, List.append_assoc, List.singleton_append,
        segmentsOf_append_slash, segmentsOf_eq_singleton (unbroken first List.mem_cons_self),
        ih (by simp) fun segment h => unbroken segment (List.mem_cons_of_mem _ h)]
      rfl

end Path

/-! ## Section 2: Names -/

/-- A name that is a segment of its own and means itself. -/
structure Name.IsSegment (name : Name) : Prop where
  unbroken : Name.slash ∉ name
  named : Path.componentOf? name = some (.normal name)

namespace Path

/-- A segment means nothing, a step upwards, or itself. -/
theorem componentOf?_cases (segment : Name) :
    componentOf? segment = none ∨ componentOf? segment = some .parent
      ∨ componentOf? segment = some (.normal segment) := by
  unfold componentOf?
  split
  · exact .inl rfl
  · split
    · exact .inr (.inl rfl)
    · exact .inr (.inr rfl)

theorem componentOf?_eq_normal {segment name : Name}
    (h : componentOf? segment = some (.normal name)) : segment = name := by
  rcases componentOf?_cases segment with none | parent | normal
  · simp [none] at h
  · simp [parent] at h
  · simpa [normal] using h

theorem componentOf?_eq_normal_iff {name : Name} :
    componentOf? name = some (.normal name)
      ↔ name ≠ [] ∧ name ≠ [Name.dot] ∧ name ≠ [Name.dot, Name.dot] := by
  unfold componentOf?
  split
  · rename_i nothing
    simp only [Bool.or_eq_true, decide_eq_true_eq] at nothing
    simp only [reduceCtorEq, false_iff]
    rintro ⟨nonempty, noDot, -⟩
    exact nothing.elim nonempty noDot
  · split <;> simp_all

theorem isSegment_of_mem_segmentsOf {bytes : List UInt8} {segment name : Name}
    (h : segment ∈ segmentsOf bytes) (named : componentOf? segment = some (.normal name)) :
    name.IsSegment := by
  obtain rfl := componentOf?_eq_normal named
  exact ⟨slash_not_mem_of_mem_segmentsOf h, named⟩

end Path

theorem Name.IsSegment.ne_nil {name : Name} (h : name.IsSegment) : name ≠ [] :=
  (Path.componentOf?_eq_normal_iff.mp h.named).1

/-- A name stays one when bytes are added at its end. -/
theorem Name.IsSegment.append {name more : Name} (h : name.IsSegment) (unbroken : Name.slash ∉ more) :
    Name.IsSegment (name ++ more) := by
  obtain ⟨nonempty, noDot, noDots⟩ := Path.componentOf?_eq_normal_iff.mp h.named
  refine ⟨by simp [h.unbroken, unbroken], Path.componentOf?_eq_normal_iff.mpr ⟨?_, ?_, ?_⟩⟩
  · simp [nonempty]
  · -- a name with bytes added is no dot, and no two dots, unless it was a dot
    intro dot
    cases more with
    | nil => exact noDot (by simpa using dot)
    | cons b more => cases name <;> simp_all
  · intro dots
    obtain rfl | ⟨a, rest, rfl⟩ := List.eq_nil_or_concat' more
    · exact noDots (by simpa using dots)
    · match name, nonempty with
      | [x], _ => simp_all
      | [x, y], _ => simp_all
      | x :: y :: z :: name, _ => simp_all

/-! ## Section 3: Steps -/

namespace Path

/-- What a path means when it is seen from a directory: the steps to names and upwards. -/
def steps (p : Path) : List Component := p.segments.filterMap componentOf?

@[simp] theorem steps_empty : steps ⟨[]⟩ = [] := rfl

theorem isAbsolute_iff {p : Path} : p.isAbsolute ↔ ∃ rest, p = ⟨Name.slash :: rest⟩ := by
  obtain ⟨bytes⟩ := p
  cases bytes with
  | nil => simp [isAbsolute]
  | cons b rest => simp [isAbsolute]

theorem bytes_ne_nil_of_isAbsolute {p : Path} (absolute : p.isAbsolute) : p.bytes ≠ [] := by
  obtain ⟨rest, rfl⟩ := isAbsolute_iff.mp absolute
  simp

/-- The meaning of an absolute path: its steps, from the root. -/
theorem components_eq_root_steps {p : Path} (absolute : p.isAbsolute) :
    p.components = .root :: p.steps := by
  obtain ⟨rest, rfl⟩ := isAbsolute_iff.mp absolute
  -- before the leading separator is an empty segment, which means nothing
  have segments : segmentsOf (Name.slash :: rest) = [] :: segmentsOf rest :=
    segmentsOf_append_slash [] rest
  have nonempty : (segmentsOf rest).isEmpty = false := by
    simpa using segmentsOf_ne_nil rest
  simp [components, componentsOf, steps, Path.segments, segments, nonempty, componentOf?]

/-- The meaning of a path that is not absolute: its steps, or a dot and then its steps. -/
theorem components_eq_steps {p : Path} (relative : p.isAbsolute = false) :
    p.components = p.steps ∨ p.components = .current :: p.steps := by
  -- a leading dot is a component, but no step
  unfold components steps componentsOf
  split
  · simp_all
  · rename_i first rest segments
    dsimp only
    split
    · rename_i empty
      subst empty
      obtain ⟨bytes⟩ := p
      match bytes, relative, segments with
      | [], _, segments => simp_all [Path.segments, segmentsOf, componentOf?]
      | b :: bytes, relative, segments =>
        have notSlash : b ≠ Name.slash := by simpa [isAbsolute] using relative
        simp only [Path.segments, segmentsOf, if_neg notSlash] at segments
        split at segments <;> simp_all
    · split
      · simp_all [componentOf?]
      · split <;> simp_all

theorem mem_steps {p : Path} {step : Component} (h : step ∈ p.steps) :
    step = .parent ∨ ∃ name, step = .normal name ∧ name.IsSegment := by
  obtain ⟨segment, mem, meaning⟩ := List.mem_filterMap.mp h
  rcases componentOf?_cases segment with none | parent | normal
  · simp [none] at meaning
  · exact .inl (by simpa [parent, eq_comm] using meaning)
  · refine .inr ⟨segment, by simpa [normal, eq_comm] using meaning, ?_⟩
    exact isSegment_of_mem_segmentsOf mem normal

theorem names_eq_steps (p : Path) : p.names = p.steps.filterMap Component.name? := by
  unfold names
  cases absolute : p.isAbsolute with
  | true => rw [components_eq_root_steps absolute, List.filterMap_cons_none rfl]
  | false =>
    rcases components_eq_steps absolute with same | same
    · rw [same]
    · rw [same, List.filterMap_cons_none rfl]

theorem parent_mem_components {p : Path} :
    Component.parent ∈ p.components ↔ Component.parent ∈ p.steps := by
  cases absolute : p.isAbsolute with
  | true => simp [components_eq_root_steps absolute]
  | false =>
    rcases components_eq_steps absolute with same | same
    · rw [same]
    · simp [same]

theorem isSegment_of_mem_names {p : Path} {name : Name} (h : name ∈ p.names) :
    name.IsSegment := by
  rw [names_eq_steps] at h
  obtain ⟨step, mem, named⟩ := List.mem_filterMap.mp h
  obtain rfl | ⟨name', rfl, segment⟩ := mem_steps mem
  · cases named
  · obtain rfl : name' = name := by simpa [Component.name?] using named
    exact segment

theorem isSegment_of_mem_components {p : Path} {name : Name} (h : .normal name ∈ p.components) :
    name.IsSegment :=
  isSegment_of_mem_names (List.mem_filterMap.mpr ⟨_, h, rfl⟩)

theorem mem_of_mem_segmentsOf {bytes : List UInt8} {segment : Name} {b : UInt8}
    (h : segment ∈ segmentsOf bytes) (mem : b ∈ segment) : b ∈ bytes := by
  induction bytes generalizing segment with
  | nil => simp_all [segmentsOf]
  | cons first rest ih =>
    unfold segmentsOf at h
    split at h
    · rcases List.mem_cons.mp h with rfl | h
      · cases mem
      · exact List.mem_cons_of_mem _ (ih h mem)
    · split at h
      · simp_all
      · rename_i head more split
        rw [split] at ih
        rcases List.mem_cons.mp h with rfl | h
        · rcases List.mem_cons.mp mem with rfl | mem
          · exact List.mem_cons_self
          · exact List.mem_cons_of_mem _ (ih List.mem_cons_self mem)
        · exact List.mem_cons_of_mem _ (ih (List.mem_cons_of_mem _ h) mem)

theorem exists_segment_of_mem {bytes : List UInt8} {b : UInt8} (h : b ∈ bytes)
    (notSlash : b ≠ Name.slash) : ∃ segment ∈ segmentsOf bytes, b ∈ segment := by
  induction bytes with
  | nil => cases h
  | cons first rest ih =>
    unfold segmentsOf
    split
    · rename_i slash
      obtain rfl | h := List.mem_cons.mp h
      · exact absurd slash notSlash
      · obtain ⟨segment, mem, inside⟩ := ih h
        exact ⟨segment, List.mem_cons_of_mem _ mem, inside⟩
    · split
      · rename_i none
        exact absurd none (segmentsOf_ne_nil rest)
      · rename_i head more split
        obtain rfl | h := List.mem_cons.mp h
        · exact ⟨_, List.mem_cons_self, List.mem_cons_self⟩
        · obtain ⟨segment, mem, inside⟩ := ih h
          rw [split] at mem
          rcases List.mem_cons.mp mem with rfl | mem
          · exact ⟨_, List.mem_cons_self, List.mem_cons_of_mem _ inside⟩
          · exact ⟨segment, List.mem_cons_of_mem _ mem, inside⟩

/-- A byte that is neither a separator nor a dot is in a name. -/
theorem exists_mem_names_of_mem_bytes {p : Path} {b : UInt8} (h : b ∈ p.bytes)
    (notSlash : b ≠ Name.slash) (notDot : b ≠ Name.dot) : ∃ name ∈ p.names, b ∈ name := by
  obtain ⟨segment, mem, inside⟩ := exists_segment_of_mem h notSlash
  have meaning : componentOf? segment = some (.normal segment) := by
    refine componentOf?_eq_normal_iff.mpr ⟨List.ne_nil_of_mem inside, ?_, ?_⟩
    all_goals
      rintro rfl
      simp_all
  refine ⟨segment, ?_, inside⟩
  rw [names_eq_steps]
  exact List.mem_filterMap.mpr ⟨_, List.mem_filterMap.mpr ⟨segment, mem, meaning⟩, rfl⟩

/-- The names of a path are spelled by its bytes. -/
theorem mem_bytes_of_mem_components {p : Path} {name : Name} {b : UInt8}
    (h : .normal name ∈ p.components) (mem : b ∈ name) : b ∈ p.bytes := by
  have named : name ∈ p.names := List.mem_filterMap.mpr ⟨_, h, rfl⟩
  rw [names_eq_steps] at named
  obtain ⟨step, inSteps, isName⟩ := List.mem_filterMap.mp named
  obtain ⟨segment, inSegments, meaning⟩ := List.mem_filterMap.mp inSteps
  have same : segment = name := by
    rcases mem_steps inSteps with rfl | ⟨other, rfl, -⟩
    · cases isName
    · obtain rfl : other = name := by simpa [Component.name?] using isName
      exact componentOf?_eq_normal meaning
  exact mem_of_mem_segmentsOf inSegments (same ▸ mem)

/-- Components that all are names. -/
theorem eq_map_normal {components : List Component}
    (all : ∀ c ∈ components, ∃ name, c = .normal name) :
    components = (components.filterMap Component.name?).map .normal := by
  induction components with
  | nil => rfl
  | cons c rest ih =>
    obtain ⟨name, rfl⟩ := all c List.mem_cons_self
    have more := ih fun c h => all c (List.mem_cons_of_mem _ h)
    have named : Component.name? (.normal name) = some name := rfl
    rw [List.filterMap_cons_some named, List.map_cons, ← more]

/-- The steps of a path that does not step upwards are its names. -/
theorem steps_eq_names {p : Path} (plain : Component.parent ∉ p.steps) :
    p.steps = p.names.map .normal := by
  rw [names_eq_steps]
  refine eq_map_normal fun step mem => ?_
  -- a step that is not upwards has a name
  obtain rfl | ⟨name, rfl, -⟩ := mem_steps mem
  · exact absurd mem plain
  · exact ⟨name, rfl⟩

theorem equiv_iff {p q : Path} : p.equiv q ↔ p.components = q.components := by simp [equiv]

theorem equiv_iff_steps {p q : Path} (absolute : p.isAbsolute) (absolute' : q.isAbsolute) :
    p.equiv q ↔ p.steps = q.steps := by
  simp [equiv, components_eq_root_steps absolute, components_eq_root_steps absolute']

/-! ## Section 4: Putting together -/

theorem steps_append_slash (before after : List UInt8) :
    steps ⟨before ++ Name.slash :: after⟩ = steps ⟨before⟩ ++ steps ⟨after⟩ := by
  simp [steps, segments, segmentsOf_append_slash, List.filterMap_append]

/-- The steps of two paths put together, the second of which is not absolute. -/
theorem steps_join (p : Path) {q : Path} (relative : q.isAbsolute = false) :
    (p.join q).steps = p.steps ++ q.steps := by
  obtain ⟨before⟩ := p
  obtain ⟨after⟩ := q
  unfold join
  rw [if_neg (by simp [relative])]
  split
  · rename_i empty_or_slash
    simp only [Bool.or_eq_true, decide_eq_true_eq] at empty_or_slash
    rcases empty_or_slash with rfl | slash
    · simp
    · -- the separator is there already, with nothing behind it
      obtain ⟨init, rfl⟩ := List.getLast?_eq_some_iff.mp slash
      have joined := steps_append_slash init after
      have ended := steps_append_slash init []
      rw [steps_empty, List.append_nil] at ended
      rw [ended, ← joined]
      simp
  · exact steps_append_slash before after

theorem isAbsolute_join {p : Path} (absolute : p.isAbsolute) (q : Path) : (p.join q).isAbsolute := by
  obtain ⟨rest, rfl⟩ := isAbsolute_iff.mp absolute
  unfold join
  split
  · assumption
  · split <;> simp [isAbsolute]

theorem join_of_isAbsolute (p : Path) {q : Path} (absolute : q.isAbsolute) : p.join q = q := by
  simp [join, absolute]

/-! ## Section 5: Rows of names -/

variable {names : List Name}

theorem isAbsolute_ofNames (valid : ∀ name ∈ names, name.IsSegment) :
    (ofNames names).isAbsolute = false := by
  match names, valid with
  | [], _ => rfl
  | first :: rest, valid =>
    have segment := valid first List.mem_cons_self
    -- the first byte is one of a name
    match first, segment with
    | [], segment => exact absurd rfl segment.ne_nil
    | b :: more, segment =>
      have notSlash : b ≠ Name.slash := by
        rintro rfl
        exact segment.unbroken List.mem_cons_self
      cases rest with
      | nil => simp [ofNames, isAbsolute, notSlash]
      | cons second rest => simp [ofNames, isAbsolute, notSlash, List.intercalate_cons_cons]

theorem filterMap_componentOf? (valid : ∀ name ∈ names, name.IsSegment) :
    names.filterMap componentOf? = names.map .normal := by
  induction names with
  | nil => rfl
  | cons first rest ih =>
    rw [List.filterMap_cons_some (valid first List.mem_cons_self).named, List.map_cons,
      ih fun name h => valid name (List.mem_cons_of_mem _ h)]

theorem segments_ofNames (nonempty : names ≠ []) (valid : ∀ name ∈ names, name.IsSegment) :
    (ofNames names).segments = names :=
  segmentsOf_intercalate nonempty fun name h => (valid name h).unbroken

theorem steps_ofNames (valid : ∀ name ∈ names, name.IsSegment) :
    (ofNames names).steps = names.map .normal := by
  by_cases empty : names = []
  · subst empty
    rfl
  · rw [steps, segments_ofNames empty valid, filterMap_componentOf? valid]

theorem components_ofNames (valid : ∀ name ∈ names, name.IsSegment) :
    (ofNames names).components = names.map .normal := by
  cases names with
  | nil => rfl
  | cons first rest =>
    have segment := valid first List.mem_cons_self
    have later := filterMap_componentOf? fun name h => valid name (List.mem_cons_of_mem _ h)
    -- the first name spells neither the root nor a dot
    have notDot : first ≠ [Name.dot] := by
      rintro rfl
      exact absurd segment.named (by decide)
    rw [components, segments_ofNames (List.cons_ne_nil _ _) valid, componentsOf,
      if_neg segment.ne_nil, if_neg notDot, segment.named, later]
    rfl

/-- The meaning of a path of names alone. -/
theorem components_of_isClean {p : Path} (clean : p.isClean) :
    p.components = p.names.map .normal := by
  refine eq_map_normal fun c mem => ?_
  have named := List.all_eq_true.mp clean c mem
  cases c with
  | normal name => exact ⟨name, rfl⟩
  | _ => cases named

theorem steps_ofRootNames (valid : ∀ name ∈ names, name.IsSegment) :
    (ofRootNames names).steps = names.map .normal := by
  have split := steps_append_slash [] ([Name.slash].intercalate names)
  rw [steps_empty, List.nil_append, List.nil_append] at split
  rw [ofRootNames, split]
  exact steps_ofNames valid

theorem isAbsolute_ofRootNames (names : List Name) : (ofRootNames names).isAbsolute := by
  simp [ofRootNames, isAbsolute]

/-- Two rows of names, one behind the other, are spelled with a separator between them. -/
theorem intercalate_append {before after : List Name} (nonempty : before ≠ [])
    (nonempty' : after ≠ []) : [Name.slash].intercalate (before ++ after)
      = [Name.slash].intercalate before ++ Name.slash :: [Name.slash].intercalate after := by
  induction before with
  | nil => contradiction
  | cons first rest ih =>
    cases rest with
    | nil =>
      obtain ⟨second, more, rfl⟩ := List.exists_cons_of_ne_nil nonempty'
      simp [List.intercalate_cons_cons]
    | cons second rest =>
      have more := ih (List.cons_ne_nil second rest)
      simp only [List.cons_append, List.intercalate_cons_cons, List.append_assoc] at more ⊢
      rw [more]

/-- Bytes added to a row of names are added to the last one. -/
theorem append_ofNames (init : List Name) (last : Name) (s : String) :
    (ofNames (init ++ [last])).append s = ofNames (init ++ [last ++ Name.ofString s]) := by
  by_cases single : init = []
  · simp [append, ofNames, single]
  · simp [append, ofNames, intercalate_append single]

/-- The path of a place ends in a byte of its last name. -/
theorem getLast?_ofRootNames (nonempty : names ≠ []) (valid : ∀ name ∈ names, name.IsSegment) :
    (ofRootNames names).bytes.getLast? ≠ some Name.slash := by
  obtain ⟨init, last, rfl⟩ := (List.eq_nil_or_concat' names).resolve_left nonempty
  have segment := valid last (by simp)
  obtain ⟨bytes, b, rfl⟩ := (List.eq_nil_or_concat' last).resolve_left segment.ne_nil
  have notSlash : b ≠ Name.slash := by
    rintro rfl
    exact segment.unbroken (by simp)
  obtain ⟨front, spelled⟩ :
      ∃ front, [Name.slash].intercalate (init ++ [bytes ++ [b]]) = front ++ [b] := by
    by_cases single : init = []
    · exact ⟨bytes, by simp [single]⟩
    · exact ⟨[Name.slash].intercalate init ++ Name.slash :: bytes,
        by simp [intercalate_append single]⟩
  rw [ofRootNames, spelled, ← List.cons_append, List.getLast?_concat]
  simpa using notSlash

/-- Names below a place are spelled behind it. -/
theorem join_ofRootNames {place : List Name} (valid : ∀ name ∈ place, name.IsSegment)
    (nonempty : names ≠ []) (valid' : ∀ name ∈ names, name.IsSegment) :
    (ofRootNames place).join (ofNames names) = ofRootNames (place ++ names) := by
  have relative : ¬ (ofNames names).isAbsolute := by simp [isAbsolute_ofNames valid']
  rw [join, if_neg relative]
  by_cases top : place = []
  · -- the path of the root ends in the separator already
    subst top
    rfl
  · have begun : (ofRootNames place).bytes ≠ [] :=
      bytes_ne_nil_of_isAbsolute (isAbsolute_ofRootNames place)
    have ended := getLast?_ofRootNames top valid
    rw [if_neg (by simp [begun, ended])]
    simp [ofRootNames, ofNames, intercalate_append top nonempty]

/-! ## Section 6: Places -/

end Path

/-- Where a step leads from the place at the end of the given names. -/
def Component.walk (place : List Name) : Component → List Name
  | .root => []
  | .current => place
  | .parent => place.dropLast
  | .normal name => place ++ [name]

namespace Path

variable {names : List Name}

/-- The names that the meaning of a path leads to from the root. -/
def place (p : Path) : List Name := p.components.foldl Component.walk []

/-- An absolute path that does not step upwards. -/
structure IsPlain (p : Path) : Prop where
  absolute : p.isAbsolute
  downwards : Component.parent ∉ p.steps

theorem foldl_walk_normal (place names : List Name) :
    (names.map Component.normal).foldl Component.walk place = place ++ names := by
  induction names generalizing place with
  | nil => simp
  | cons name rest ih => simp [Component.walk, ih]

theorem place_of_isAbsolute {p : Path} (absolute : p.isAbsolute) :
    p.place = p.steps.foldl Component.walk [] := by
  rw [place, components_eq_root_steps absolute]
  rfl

/-- A path with names below an absolute one leads to those names below its place. -/
theorem place_join {p q : Path} (absolute : p.isAbsolute) (relative : q.isAbsolute = false)
    (downwards : Component.parent ∉ q.steps) : (p.join q).place = p.place ++ q.names := by
  rw [place_of_isAbsolute (isAbsolute_join absolute q), steps_join p relative,
    List.foldl_append, steps_eq_names downwards, foldl_walk_normal, place_of_isAbsolute absolute]

theorem IsPlain.place_eq_names {p : Path} (plain : p.IsPlain) : p.place = p.names := by
  rw [place_of_isAbsolute plain.absolute, steps_eq_names plain.downwards, foldl_walk_normal,
    List.nil_append]

theorem IsPlain.steps_eq {p : Path} (plain : p.IsPlain) : p.steps = p.place.map .normal := by
  rw [plain.place_eq_names, ← steps_eq_names plain.downwards]

theorem IsPlain.components_eq {p : Path} (plain : p.IsPlain) :
    p.components = .root :: p.place.map .normal := by
  rw [components_eq_root_steps plain.absolute, plain.steps_eq]

theorem IsPlain.join {p q : Path} (plain : p.IsPlain) (relative : q.isAbsolute = false)
    (downwards : Component.parent ∉ q.steps) : (p.join q).IsPlain where
  absolute := isAbsolute_join plain.absolute q
  downwards := by
    rw [steps_join p relative, List.mem_append, not_or]
    exact ⟨plain.downwards, downwards⟩

theorem isPlain_ofRootNames (valid : ∀ name ∈ names, name.IsSegment) :
    (ofRootNames names).IsPlain where
  absolute := isAbsolute_ofRootNames names
  downwards := by simp [steps_ofRootNames valid]

theorem place_ofRootNames (valid : ∀ name ∈ names, name.IsSegment) :
    (ofRootNames names).place = names := by
  rw [place_of_isAbsolute (isAbsolute_ofRootNames names), steps_ofRootNames valid,
    foldl_walk_normal, List.nil_append]

theorem names_ofNames (valid : ∀ name ∈ names, name.IsSegment) : (ofNames names).names = names := by
  rw [names_eq_steps, steps_ofNames valid]
  induction names with
  | nil => rfl
  | cons name rest ih =>
    have named : Component.name? (.normal name) = some name := rfl
    rw [List.map_cons, List.filterMap_cons_some named,
      ih fun name h => valid name (List.mem_cons_of_mem _ h)]

theorem parent_not_mem_steps_ofNames (valid : ∀ name ∈ names, name.IsSegment) :
    Component.parent ∉ (ofNames names).steps := by
  simp [steps_ofNames valid]

theorem IsPlain.equiv_iff_place {p q : Path} (plain : p.IsPlain) (plain' : q.IsPlain) :
    p.equiv q ↔ p.place = q.place := by
  have injective : Function.Injective Component.normal := fun _ _ h => Component.normal.inj h
  rw [equiv_iff, plain.components_eq, plain'.components_eq, List.cons_inj_right,
    (List.map_injective_iff.mpr injective).eq_iff]

end Path

end Folio
