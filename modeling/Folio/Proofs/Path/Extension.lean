import Folio.Proofs.Path.Target

/-!
# Replacing an extension

The extension of a name is what stands behind its last dot, unless that dot is in front. Replacing it
changes the last component of a path and no other, whether the path is absolute or not. A path that
ends in no name has no extension and stays as it is.

Main definitions:
- `Name.Extended`: a name with its extension replaced, by the dots in it
- `Path.Extended`: a path with the extension of its last component replaced

Main statements:
- `Name.extended_iff`: the extension of a name is replaced in one way
- `Path.extended_withExtension`
- `Path.components_join`
-/

namespace Folio

/-! ## Section 1: Names -/

/-- `name.Extended extension other`: `other` is `name` with its extension replaced. -/
inductive Name.Extended (extension : Name) : Name → Name → Prop where
  /-- What stands behind the last dot is replaced. -/
  | replaced {stem old : Name} (front : stem ≠ []) (last : Name.dot ∉ old) :
      Extended extension (stem ++ Name.dot :: old) (stem ++ Name.dot :: extension)
  /-- A name without a dot, but for one in front, gets one. -/
  | added {name : Name} (undotted : Name.dot ∉ name.tail) :
      Extended extension name (name ++ Name.dot :: extension)

namespace Path

/-- A name is split at its last dot. -/
theorem splitExtension_of_last {stem old : Name} (front : stem ≠ []) (last : Name.dot ∉ old) :
    splitExtension (stem ++ Name.dot :: old) = (stem, some old) := by
  -- read backwards, the bytes before the first dot are those behind the last one
  have behind : (stem ++ Name.dot :: old).reverse.takeWhile (· ≠ Name.dot) = old.reverse := by
    have all : ∀ b ∈ old.reverse, decide (b ≠ Name.dot) = true := by
      intro b mem
      simp only [decide_eq_true_eq]
      rintro rfl
      exact last (List.mem_reverse.mp mem)
    rw [List.reverse_append, List.reverse_cons, List.append_assoc,
      List.takeWhile_append_of_pos all]
    simp
  have count : (stem ++ Name.dot :: old).length - old.length - 1 = stem.length := by
    simp only [List.length_append, List.length_cons]
    omega
  have shorter : old.length ≠ (stem ++ Name.dot :: old).length := by
    simp only [List.length_append, List.length_cons]
    omega
  simp only [splitExtension, behind, List.reverse_reverse, count, List.take_left' rfl]
  rw [if_neg (by simp only [Bool.or_eq_true, decide_eq_true_eq]; exact (·.elim shorter front))]

/-- A name without a dot behind its first byte is not split. -/
theorem splitExtension_of_undotted {name : Name} (undotted : Name.dot ∉ name.tail) :
    splitExtension name = (name, none) := by
  have all {bytes : List UInt8} (free : Name.dot ∉ bytes) :
      ∀ b ∈ bytes.reverse, decide (b ≠ Name.dot) = true := by
    intro b mem
    simp only [decide_eq_true_eq]
    rintro rfl
    exact free (List.mem_reverse.mp mem)
  cases name with
  | nil => rfl
  | cons b rest =>
    rw [List.tail_cons] at undotted
    -- the bytes behind the first one are without a dot
    have behind : (b :: rest).reverse.takeWhile (· ≠ Name.dot)
        = rest.reverse ++ [b].takeWhile (· ≠ Name.dot) := by
      rw [List.reverse_cons, List.takeWhile_append_of_pos (all undotted)]
    simp only [splitExtension, behind]
    by_cases dotted : b = Name.dot
    · simp [dotted]
    · simp [dotted]

end Path

/-- The extension of a name is replaced in one way. -/
theorem Name.extended_iff {name other : Name} {extension : String} :
    Name.Extended (Name.ofString extension) name other ↔ other = name.withExtension extension := by
  constructor
  · rintro (⟨front, last⟩ | undotted)
    · rw [Name.withExtension, Path.splitExtension_of_last front last]
    · rw [Name.withExtension, Path.splitExtension_of_undotted undotted]
  · rintro rfl
    by_cases undotted : Name.dot ∈ name.tail
    · -- the name is cut at the last of its dots
      obtain ⟨old, stem, cut, last⟩ := List.eq_append_cons_of_mem (List.mem_reverse.mpr undotted)
      have spelled : name = name.take 1 ++ stem.reverse ++ Name.dot :: old.reverse := by
        have tail : name.tail = stem.reverse ++ Name.dot :: old.reverse := by
          simpa using congrArg List.reverse cut
        rw [List.append_assoc, ← tail, ← List.drop_one, List.take_append_drop]
      have front : name.take 1 ++ stem.reverse ≠ [] := by
        cases name with
        | nil => cases undotted
        | cons b rest => simp
      have last' : Name.dot ∉ old.reverse := by simpa using last
      rw [spelled, Name.withExtension, Path.splitExtension_of_last front last']
      exact .replaced front last'
    · rw [Name.withExtension, Path.splitExtension_of_undotted undotted]
      exact .added undotted

/-! ## Section 2: The meaning of segments -/

namespace Path

/-- What the first segment of a path means: the root if nothing stands before the first separator. -/
def leading (first : Name) : List Component :=
  if first = [] then [.root] else if first = [Name.dot] then [.current]
  else (componentOf? first).toList

/-- Only the empty path has one empty segment. -/
theorem first_or_rest_of_segmentsOf {bytes : List UInt8} {first : Name} {rest : List Name}
    (nonempty : bytes ≠ []) (segments : segmentsOf bytes = first :: rest) :
    first ≠ [] ∨ rest ≠ [] := by
  by_contra neither
  push Not at neither
  rw [neither.1, neither.2] at segments
  obtain ⟨b, more, rfl⟩ := List.exists_cons_of_ne_nil nonempty
  by_cases slash : b = Name.slash
  · rw [segmentsOf, if_pos slash] at segments
    exact segmentsOf_ne_nil more (List.cons.inj segments).2
  · obtain ⟨segment, mem, inside⟩ := exists_segment_of_mem (List.mem_cons_self (l := more)) slash
    rw [segments, List.mem_singleton] at mem
    simp [mem] at inside

theorem componentsOf_cons {first : Name} {rest : List Name} (spelled : first ≠ [] ∨ rest ≠ []) :
    componentsOf (first :: rest) = leading first ++ rest.filterMap componentOf? := by
  unfold componentsOf leading
  dsimp only
  split
  · rename_i empty
    have more : rest.isEmpty = false := by
      simpa using spelled.resolve_left (absurd empty)
    simp [more]
  · split
    · rfl
    · split
      · rename_i meaning
        simp [meaning]
      · rename_i meaning
        simp [meaning]

theorem leading_of_isSegment {name : Name} (h : name.IsSegment) : leading name = [.normal name] := by
  obtain ⟨nonempty, notDot, -⟩ := componentOf?_eq_normal_iff.mp h.named
  rw [leading, if_neg nonempty, if_neg notDot, h.named]
  rfl

/-! ## Section 3: Paths -/

/-- `p.Extended extension q`: `q` is `p` with the extension of its last component replaced. -/
inductive Extended (extension : Name) (p : Path) : Path → Prop where
  /-- The last component is a name, and no other component changes. -/
  | named {q : Path} {init : List Component} {name other : Name}
      (ending : p.components = init ++ [.normal name]) (replaced : Name.Extended extension name other)
      (ending' : q.components = init ++ [.normal other]) : Extended extension p q
  /-- A path that ends in no name stays. -/
  | unnamed (none : p.fileName? = none) : Extended extension p p

theorem components_withExtension {p : Path} {init : List Component} {name : Name}
    (ending : p.components = init ++ [.normal name]) {extension : String}
    (segment : (name.withExtension extension).IsSegment) :
    (p.withExtension extension).components = init ++ [.normal (name.withExtension extension)] := by
  have fileName : p.fileName? = some name := by simp [fileName?, ending, Component.name?]
  obtain ⟨first, rest, segments⟩ := List.exists_cons_of_ne_nil (segmentsOf_ne_nil p.bytes)
  have segments' : p.segments = first :: rest := segments
  have nonempty : p.bytes ≠ [] := by
    intro empty
    simp [components, Path.segments, empty, segmentsOf, componentsOf] at ending
  have spelled := first_or_rest_of_segmentsOf nonempty segments
  have unbroken : ∀ s ∈ first :: rest, Name.slash ∉ s := fun s mem =>
    slash_not_mem_of_mem_segmentsOf (segments ▸ mem)
  have meaning : leading first ++ (trimEnd rest).filterMap componentOf? = init ++ [.normal name] := by
    rw [filterMap_trimEnd, ← componentsOf_cons spelled, ← ending, components, segments']
  rw [withExtension, fileName, components, Path.segments, segments', trimSegments]
  dsimp only
  rw [← Name.withExtension]
  -- the name is in the first segment, or in the last one that means anything
  obtain single | ⟨front, last, trimmed⟩ := List.eq_nil_or_concat' (trimEnd rest)
  · rw [single, List.filterMap_nil, List.append_nil] at meaning
    have alone : init = [] := by
      have short : (leading first).length ≤ 1 := by
        unfold leading
        split
        · simp
        · split
          · simp
          · cases componentOf? first <;> simp
      rw [meaning] at short
      simpa using short
    have whole := segmentsOf_intercalate (List.cons_ne_nil (name.withExtension extension) [])
      (by simpa using segment.unbroken)
    rw [single, List.dropLast_singleton, List.nil_append, whole,
      componentsOf_cons (.inl segment.ne_nil), leading_of_isSegment segment, alone]
    rfl
  · obtain ⟨before, same⟩ : leading first ++ front.filterMap componentOf? = init
        ∧ componentOf? last = some (.normal name) := by
      cases kept : componentOf? last with
      | none => exact absurd kept (componentOf?_of_trimEnd trimmed)
      | some c =>
        rw [trimmed, List.filterMap_append, List.filterMap_cons_some kept, List.filterMap_nil,
          ← List.append_assoc] at meaning
        obtain ⟨before, same⟩ := List.append_inj' meaning rfl
        exact ⟨before, by simpa using same⟩
    -- the segments in front keep their meaning, whatever the last one is
    have unbroken' : ∀ s ∈ first :: (front ++ [name.withExtension extension]), Name.slash ∉ s := by
      intro s mem
      simp only [List.mem_cons, List.mem_append, List.not_mem_nil, or_false] at mem
      rcases mem with rfl | mem | rfl
      · exact unbroken s List.mem_cons_self
      · have kept : s ∈ trimEnd rest := by simp [trimmed, mem]
        exact unbroken s (List.mem_cons_of_mem _ (trimEnd_subset _ kept))
      · exact segment.unbroken
    rw [trimmed, ← List.cons_append, List.dropLast_concat, List.cons_append,
      segmentsOf_intercalate (by simp) unbroken', componentsOf_cons (.inr (by simp)),
      List.filterMap_append, List.filterMap_cons_some segment.named, ← List.append_assoc, before]
    rfl

/-- The extension of the last component is replaced, and nothing else. -/
theorem extended_withExtension (p : Path) {extension : String}
    (unbroken : Name.slash ∉ Name.ofString extension)
    (nonempty : ∃ b ∈ Name.ofString extension, b ≠ Name.dot) :
    p.Extended (Name.ofString extension) (p.withExtension extension) := by
  cases fileName : p.fileName? with
  | none =>
    rw [withExtension, fileName]
    exact .unnamed fileName
  | some name =>
    obtain ⟨last, ends, isName⟩ := Option.bind_eq_some_iff.mp fileName
    obtain ⟨init, ending⟩ := List.getLast?_eq_some_iff.mp ends
    cases last with
    | normal other =>
      obtain rfl : other = name := by simpa [Component.name?] using isName
      have mem : .normal other ∈ p.components := by simp [ending]
      have segment := isSegment_of_mem_components mem
      exact .named ending (Name.extended_iff.mpr rfl)
        (components_withExtension ending (segment.withExtension unbroken nonempty))
    | _ => cases isName

theorem components_append_slash {before : List UInt8} (nonempty : before ≠ []) (after : List UInt8) :
    components ⟨before ++ Name.slash :: after⟩ = components ⟨before⟩ ++ steps ⟨after⟩ := by
  obtain ⟨first, rest, segments⟩ := List.exists_cons_of_ne_nil (segmentsOf_ne_nil before)
  have spelled := first_or_rest_of_segmentsOf nonempty segments
  have joined : (⟨before ++ Name.slash :: after⟩ : Path).segments
      = first :: (rest ++ segmentsOf after) := by
    rw [Path.segments, segmentsOf_append_slash, segments, List.cons_append]
  have spelled' : first ≠ [] ∨ rest ++ segmentsOf after ≠ [] :=
    .inr (by simp [segmentsOf_ne_nil])
  rw [components, joined, componentsOf_cons spelled', List.filterMap_append, ← List.append_assoc,
    ← componentsOf_cons spelled, ← segments]
  rfl

/-- The components of two paths put together, the second of which is not absolute. -/
theorem components_join {p q : Path} (nonempty : p.bytes ≠ []) (relative : q.isAbsolute = false) :
    (p.join q).components = p.components ++ q.steps := by
  obtain ⟨before⟩ := p
  obtain ⟨after⟩ := q
  rw [join, if_neg (by simp [relative])]
  by_cases slash : before.getLast? = some Name.slash
  · rw [if_pos (by simp [slash])]
    obtain ⟨init, rfl⟩ := List.getLast?_eq_some_iff.mp slash
    by_cases top : init = []
    · subst top
      exact (components_eq_root_steps (p := ⟨Name.slash :: after⟩) (by simp [isAbsolute])).trans
        (congrArg _ (steps_append_slash [] after))
    · have joined := components_append_slash top after
      have ended := components_append_slash top []
      rw [steps_empty, List.append_nil] at ended
      rw [ended, ← joined]
      simp
  · rw [if_neg (by simpa [slash] using nonempty)]
    exact components_append_slash nonempty after

end Path

end Folio
