import Folio.Proofs.Resources.Candidates

/-!
# What a logical path is resolved to

To resolve a logical path, its names are taken as they are and an extension is added to the last one.
Separators, dots and the root in its spelling do not count, so the file is told by the names and by
which extensions give one. An extension without a separator never makes a name into something else,
whatever bytes it has: what is found is again a row of names, as many as before. Such a row stands
for itself, and to take it exactly gives it back.

Main definitions:
- `Path.extended`: names with an extension added to the last of them
- `Resources.Resolution`: what a logical path is resolved to, with a rule for each case

Main statements:
- `Resources.resolve_eq_iff`: resolving follows these rules
- `Resources.resolve_exact_iff`: the paths that stand for themselves
- `Resources.resolve_confined`: what is found is told by the names and is a row of names
-/

namespace Folio

/-! ## Section 1: Names with an extension -/

namespace Path

variable {p q : Path}

/-- The path of some names, the last of which has an extension added. -/
def extended (init : List Name) (last : Name) (extension : String) : Path :=
  ofNames (init ++ [last ++ Name.ofString extension])

theorem append_empty (p : Path) : p.append "" = p := by
  have nothing : Name.ofString "" = [] := rfl
  simp [append, nothing]

/-- A row of names is clean as it is. -/
theorem cleaned?_ofNames {names : List Name} (nonempty : names ≠ [])
    (valid : ∀ name ∈ names, name.IsSegment) :
    (ofNames names).cleaned? = some (ofNames names) := by
  refine cleaned?_eq_some_iff.mpr ⟨parent_not_mem_steps_ofNames valid, ?_, ?_⟩
  · rwa [names_ofNames valid]
  · rw [names_ofNames valid]

theorem cleaned?_eq_none_iff : p.cleaned? = none ↔ .parent ∈ p.components ∨ p.names = [] := by
  unfold cleaned?
  split
  · simp_all
  · split <;> simp_all

/-- A path that can be cleaned up has a last name. -/
theorem exists_names_of_cleaned? {clean : Path} (h : p.cleaned? = some clean) :
    ∃ init last, .parent ∉ p.components ∧ p.names = init ++ [last] := by
  obtain ⟨downwards, nonempty, -⟩ := cleaned?_eq_some_iff.mp h
  obtain ⟨init, last, names⟩ := (List.eq_nil_or_concat' p.names).resolve_left nonempty
  exact ⟨init, last, mt parent_mem_components.mp downwards, names⟩

/-- Two spellings of the same names clean up alike. -/
theorem cleaned?_congr (names : p.names = q.names)
    (upwards : .parent ∈ p.components ↔ .parent ∈ q.components) : p.cleaned? = q.cleaned? := by
  unfold cleaned?
  simp only [List.contains_iff_mem, upwards, names]

end Path

namespace Resources

variable {resources : Resources} {logical file : Path} {extensions : List String}

/-! ## Section 2: The rules of resolving -/

/-- What a logical path is resolved to: nothing, if it steps upwards or has no name in it; else its
names with the first extension that gives a file, and nothing if none does. -/
inductive Resolution (resources : Resources) (extensions : List String) (logical : Path) :
    Option Path → Prop where
  | upwards (parent : .parent ∈ logical.components) : Resolution resources extensions logical none
  | nameless (names : logical.names = []) : Resolution resources extensions logical none
  | missing {init : List Name} {last : Name} (downwards : .parent ∉ logical.components)
      (names : logical.names = init ++ [last])
      (nowhere : ∀ e ∈ extensions, ¬ resources.has (.extended init last e)) :
      Resolution resources extensions logical none
  | found {init : List Name} {last : Name} {before after : List String} {e : String}
      (downwards : .parent ∉ logical.components) (names : logical.names = init ++ [last])
      (first : extensions = before ++ e :: after) (has : resources.has (.extended init last e))
      (earlier : ∀ e' ∈ before, ¬ resources.has (.extended init last e')) :
      Resolution resources extensions logical (some (.extended init last e))

theorem resolve_of_cleaned?_eq_none (h : logical.cleaned? = none) :
    resources.resolve logical extensions = none := by
  rw [resolve, h]

/-- A path with names that does not step upwards is probed with one extension after the other. -/
theorem resolve_of_names {init : List Name} {last : Name} (downwards : .parent ∉ logical.components)
    (names : logical.names = init ++ [last]) : resources.resolve logical extensions
      = (extensions.map (Path.extended init last)).find? resources.has := by
  have cleaned : logical.cleaned? = some (.ofNames (init ++ [last])) := by
    refine Path.cleaned?_eq_some_iff.mpr ⟨mt Path.parent_mem_components.mpr downwards, ?_, ?_⟩
    · simp [names]
    · rw [names]
  have candidate : (Path.ofNames (init ++ [last])).append = .extended init last :=
    funext fun e => Path.append_ofNames init last e
  simp only [resolve, cleaned, candidate]

theorem find?_map_eq_some_iff {f : String → Path} :
    (extensions.map f).find? resources.has = some file ↔ ∃ before e after,
      extensions = before ++ e :: after ∧ file = f e ∧ resources.has file
        ∧ ∀ e' ∈ before, ¬ resources.has (f e') := by
  rw [List.find?_map, Option.map_eq_some_iff]
  constructor
  · rintro ⟨e, first, rfl⟩
    obtain ⟨has, before, after, split, earlier⟩ := List.find?_eq_some_iff_append.mp first
    exact ⟨before, e, after, split, rfl, has, fun e' mem => by simpa using earlier e' mem⟩
  · rintro ⟨before, e, after, split, rfl, has, earlier⟩
    refine ⟨e, List.find?_eq_some_iff_append.mpr ⟨has, before, after, split, ?_⟩, rfl⟩
    exact fun e' mem => by simpa using earlier e' mem

/-- Resolving gives what the rules say, and the rules say one thing only. -/
theorem resolve_eq_iff {found : Option Path} :
    resources.resolve logical extensions = found
      ↔ resources.Resolution extensions logical found := by
  constructor
  · rintro rfl
    cases cleaned : logical.cleaned? with
    | none =>
      rw [resolve_of_cleaned?_eq_none cleaned]
      exact (Path.cleaned?_eq_none_iff.mp cleaned).elim .upwards .nameless
    | some clean =>
      -- then the extensions decide between the last two rules
      obtain ⟨init, last, downwards, names⟩ := Path.exists_names_of_cleaned? cleaned
      have probed : resources.resolve logical extensions
          = (extensions.map (Path.extended init last)).find? resources.has :=
        resolve_of_names downwards names
      cases result : resources.resolve logical extensions with
      | none =>
        rw [result, eq_comm, List.find?_eq_none] at probed
        refine .missing downwards names fun e mem => probed _ (List.mem_map_of_mem mem)
      | some file =>
        rw [result, eq_comm, find?_map_eq_some_iff] at probed
        obtain ⟨before, e, after, split, rfl, has, earlier⟩ := probed
        exact .found downwards names split has earlier
  · intro rule
    cases rule with
    | upwards parent => exact resolve_of_cleaned?_eq_none (Path.cleaned?_eq_none_iff.mpr (.inl parent))
    | nameless names => exact resolve_of_cleaned?_eq_none (Path.cleaned?_eq_none_iff.mpr (.inr names))
    | missing downwards names nowhere =>
      rw [resolve_of_names downwards names, List.find?_eq_none]
      simpa using nowhere
    | found downwards names split has earlier =>
      rw [resolve_of_names downwards names, find?_map_eq_some_iff]
      exact ⟨_, _, _, split, rfl, has, earlier⟩

/-! ## Section 3: Paths that stand for themselves -/

theorem resolve_exact_of_cleaned {clean : Path} (cleaned : logical.cleaned? = some clean) :
    resources.resolve logical [""] = if resources.has clean then some clean else none := by
  simp only [resolve, cleaned, List.map_cons, List.map_nil, Path.append_empty, List.find?_singleton]

/-- A path that is taken exactly gives itself just if it is a row of names and names a file. -/
theorem resolve_exact_iff : resources.resolve file [""] = some file
    ↔ (∃ names, names ≠ [] ∧ (∀ name ∈ names, name.IsSegment) ∧ file = .ofNames names)
      ∧ resources.has file := by
  constructor
  · intro exact
    obtain ⟨candidate, has⟩ := mem_candidates_of_resolve exact
    have unbroken : ∀ e ∈ [""], '/' ∉ e.toList := by simp
    exact ⟨Path.exists_names_of_mem_candidates unbroken candidate, has⟩
  · rintro ⟨⟨names, nonempty, valid, rfl⟩, has⟩
    rw [resolve_exact_of_cleaned (Path.cleaned?_ofNames nonempty valid), if_pos has]

/-- What a logical path is resolved to stands for itself, if extensions have no separators. -/
theorem resolve_exact_of_resolve (unbroken : ∀ e ∈ extensions, '/' ∉ e.toList)
    (resolved : resources.resolve logical extensions = some file) :
    resources.resolve file [""] = some file := by
  obtain ⟨candidate, has⟩ := mem_candidates_of_resolve resolved
  exact resolve_exact_iff.mpr ⟨Path.exists_names_of_mem_candidates unbroken candidate, has⟩

/-- A path that stands for itself is found as it is where the empty extension comes first. -/
theorem resolve_of_exact (exact : resources.resolve file [""] = some file) (rest : List String) :
    resources.resolve file ("" :: rest) = some file := by
  obtain ⟨⟨names, nonempty, valid, rfl⟩, has⟩ := resolve_exact_iff.mp exact
  simp only [resolve, Path.cleaned?_ofNames nonempty valid, List.map_cons, Path.append_empty]
  exact List.find?_cons_of_pos has

/-! ## Section 4: What is found -/

/-- Whatever there is, and whatever a logical path is spelled like: it is resolved by the rules, to
the names along it with the first extension that gives a file. What is found is a relative path of
names alone, the same ones but for the last, so it depends on the names and nothing else; and where
the empty extension comes first, it is found again. -/
theorem resolve_confined (resources : Resources) {extensions : List String}
    (unbroken : ∀ e ∈ extensions, '/' ∉ e.toList) (logical : Path) :
    (∀ found, resources.resolve logical extensions = found
        ↔ resources.Resolution extensions logical found)
      ∧ (∀ file, resources.resolve logical extensions = some file →
          resources.has file ∧ file.isAbsolute = false
            ∧ ∃ init last, logical.names = init ++ [last] ∧ ∃ e ∈ extensions,
              file.components = (init ++ [last ++ Name.ofString e]).map .normal)
      ∧ (∀ other : Path, logical.names = other.names →
          (.parent ∈ logical.components ↔ .parent ∈ other.components) →
            resources.resolve logical extensions = resources.resolve other extensions)
      ∧ (extensions.head? = some "" → ∀ file, resources.resolve logical extensions = some file →
          resources.resolve file extensions = some file) := by
  refine ⟨fun found => resolve_eq_iff, fun file resolved => ?_, fun other names upwards => ?_,
    fun first file resolved => ?_⟩
  · obtain ⟨candidate, has⟩ := mem_candidates_of_resolve resolved
    obtain ⟨init, last, e, mem, -, names, rfl⟩ := Path.mem_candidates candidate
    -- the extension leaves the last name a name
    have valid := Path.isSegment_of_mem_candidate names (unbroken e mem)
    exact ⟨has, Path.isAbsolute_ofNames valid, init, last, names, e, mem,
      Path.components_ofNames valid⟩
  · rw [resolve, resolve, Path.cleaned?_congr names upwards]
  · obtain ⟨rest, rfl⟩ : ∃ rest, extensions = "" :: rest := List.head?_eq_some_iff.mp first
    exact resolve_of_exact (resolve_exact_of_resolve unbroken resolved) rest

/-- Of two files beside a directory with the name of the path, the extension that comes first gives
the one that is found, for both spellings. -/
theorem resolve_confined_spellings :
    let resources := memory [(.ofString "a/b.c.md", "1"), (.ofString "a/b.c.txt", "2"),
      (.ofString "a/b.c/d", "3")]
    let extensions := ["", ".txt", ".md"]
    let file := Path.ofString "a/b.c.txt"
    (∀ e ∈ extensions, '/' ∉ e.toList)
      ∧ resources.resolve (.ofString "//a/./b.c/") extensions = some file
      ∧ resources.resolve (.ofString "//a/./b.c/") extensions
        = resources.resolve (.ofString "a//b.c") extensions
      ∧ extensions.head? = some "" ∧ resources.resolve file extensions = some file
      ∧ resources.resolve (.ofString "a/../a/b.c") extensions = none := by
  intro resources extensions file
  have unbroken : ∀ e ∈ extensions, '/' ∉ e.toList := by decide
  have first : extensions.head? = some "" := rfl
  obtain ⟨-, -, spellings, again⟩ := resolve_confined resources unbroken (.ofString "//a/./b.c/")
  have resolved : resources.resolve (.ofString "//a/./b.c/") extensions = some file := by
    decide +kernel
  obtain ⟨upwards, -⟩ := resolve_confined resources unbroken (.ofString "a/../a/b.c")
  exact ⟨unbroken, resolved, spellings (.ofString "a//b.c") (by decide +kernel) (by decide +kernel),
    first, again first file resolved, (upwards none).mpr (.upwards (by decide +kernel))⟩

end Resources

end Folio
