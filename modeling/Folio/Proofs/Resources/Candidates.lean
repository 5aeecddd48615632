import Folio.Proofs.Path.Steps
import Folio.Resources
import Mathlib.Data.List.Find

/-!
# The files that a logical path can name

A logical path that is resolved names one of finitely many files: its own names with an extension
added to the last. If extensions have no separators in them, these files are beside each other, and
those of a path below a directory stay below it; only a path that stands for the directory itself can
name a file beside it.

Main definitions:
- `Path.candidates`: the files that a logical path can name
- `Resources.Alike`: resources that are the same at a path

Main statements:
- `Path.exists_names_of_mem_candidates`: how a candidate is spelled
- `Resources.resolve_congr`, `Resources.resolve_congr_of_alike`: resolving depends on the candidates
  alone
-/

namespace Folio

/-! ## Section 1: Separators in texts -/

namespace Name

theorem ofString_eq_flatMap (s : String) :
    ofString s = s.toList.flatMap String.utf8EncodeChar := by
  obtain ⟨chars, rfl⟩ := s.exists_eq_ofList
  rw [ofString, String.toByteArray_ofList, String.toList_ofList, List.utf8Encode]
  simp

/-- Only a slash is spelled with the byte of a slash. -/
theorem slash_mem_utf8EncodeChar {c : Char} (h : slash ∈ String.utf8EncodeChar c) : c = '/' := by
  -- all bytes of a longer encoding have their highest bit set
  have high {n : Nat} (low : 0x80 ≤ n % 256) : slash ≠ UInt8.ofNat n := by
    intro same
    have bytes := congrArg UInt8.toNat same
    simp only [slash, UInt8.toNat_ofNat'] at bytes
    simp at bytes
    omega
  unfold String.utf8EncodeChar at h
  dsimp only at h
  split at h
  · rename_i ascii
    have same := List.mem_singleton.mp h
    have bytes := congrArg UInt8.toNat same
    simp only [slash, UInt8.toNat_ofNat'] at bytes
    have small : c.toNat ≤ 0x7F := ascii
    have value : c.toNat = 0x2F := by
      simp at bytes
      omega
    exact Char.ext (UInt32.toNat_inj.mp value)
  · split at h
    · simp only [List.mem_cons, List.not_mem_nil, or_false] at h
      rcases h with h | h
      all_goals exact absurd h (high (by omega))
    · split at h
      · simp only [List.mem_cons, List.not_mem_nil, or_false] at h
        rcases h with h | h | h
        all_goals exact absurd h (high (by omega))
      · simp only [List.mem_cons, List.not_mem_nil, or_false] at h
        rcases h with h | h | h | h
        all_goals exact absurd h (high (by omega))

theorem slash_not_mem_ofString {s : String} (h : '/' ∉ s.toList) : slash ∉ ofString s := by
  rw [ofString_eq_flatMap, List.mem_flatMap]
  rintro ⟨c, mem, slash⟩
  exact h (slash_mem_utf8EncodeChar slash ▸ mem)

end Name

/-! ## Section 2: Candidates -/

namespace Path

/-- The files that a logical path can name, in the order in which they are tried. -/
def candidates (logical : Path) (extensions : List String) : List Path :=
  match logical.cleaned? with
  | none => []
  | some clean => extensions.map clean.append

theorem cleaned?_eq_some_iff {p clean : Path} :
    p.cleaned? = some clean ↔ .parent ∉ p.steps ∧ p.names ≠ [] ∧ clean = ofNames p.names := by
  have parent : p.components.contains .parent ↔ .parent ∈ p.steps := by
    rw [List.contains_iff_mem, parent_mem_components]
  unfold cleaned?
  -- a path that steps upwards or has no names is no name of a file
  by_cases upwards : Component.parent ∈ p.steps
  · rw [if_pos (parent.mpr upwards)]
    simp [upwards]
  · rw [if_neg (mt parent.mp upwards)]
    by_cases empty : p.names = []
    · simp [empty]
    · simp [empty, upwards, eq_comm]

theorem mem_candidates {p file : Path} {extensions : List String}
    (h : file ∈ p.candidates extensions) : ∃ init last, ∃ e ∈ extensions, .parent ∉ p.steps
      ∧ p.names = init ++ [last] ∧ file = ofNames (init ++ [last ++ Name.ofString e]) := by
  unfold candidates at h
  split at h
  · cases h
  · rename_i clean cleaned
    obtain ⟨downwards, nonempty, rfl⟩ := cleaned?_eq_some_iff.mp cleaned
    obtain ⟨e, mem, rfl⟩ := List.mem_map.mp h
    obtain empty | ⟨init, last, names⟩ := List.eq_nil_or_concat' p.names
    · exact absurd empty nonempty
    · exact ⟨init, last, e, mem, downwards, names, by rw [names, append_ofNames]⟩

/-- The names of a candidate, if the extensions have no separators. -/
theorem isSegment_of_mem_candidate {p : Path} {init : List Name} {last : Name} {e : String}
    (names : p.names = init ++ [last]) (unbroken : '/' ∉ e.toList) :
    ∀ name ∈ init ++ [last ++ Name.ofString e], name.IsSegment := by
  have valid : ∀ name ∈ init ++ [last], name.IsSegment := fun name mem =>
    isSegment_of_mem_names (names ▸ mem)
  intro name mem
  rcases List.mem_append.mp mem with mem | mem
  · exact valid name (List.mem_append_left _ mem)
  · obtain rfl := List.mem_singleton.mp mem
    exact (valid last (by simp)).append (Name.slash_not_mem_ofString unbroken)

/-- A candidate is a row of names, if the extensions have no separators. -/
theorem exists_names_of_mem_candidates {p file : Path} {extensions : List String}
    (unbroken : ∀ e ∈ extensions, '/' ∉ e.toList) (h : file ∈ p.candidates extensions) :
    ∃ names, names ≠ [] ∧ (∀ name ∈ names, name.IsSegment) ∧ file = ofNames names := by
  obtain ⟨init, last, e, mem, -, names, rfl⟩ := mem_candidates h
  exact ⟨_, by simp, isSegment_of_mem_candidate names (unbroken e mem), rfl⟩

/-- Where a row of names below a directory is. -/
theorem place_join_ofNames {root : Path} (absolute : root.isAbsolute) {names : List Name}
    (valid : ∀ name ∈ names, name.IsSegment) :
    (root.join (ofNames names)).place = root.place ++ names := by
  rw [place_join absolute (isAbsolute_ofNames valid) (parent_not_mem_steps_ofNames valid),
    names_ofNames valid]

/-- A row of names below a plain path is one. -/
theorem join_ofNames {root : Path} (plain : root.IsPlain) {names : List Name}
    (valid : ∀ name ∈ names, name.IsSegment) :
    (root.join (ofNames names)).IsPlain
      ∧ (root.join (ofNames names)).place = root.place ++ names :=
  ⟨plain.join (isAbsolute_ofNames valid) (parent_not_mem_steps_ofNames valid),
    place_join_ofNames plain.absolute valid⟩

end Path

namespace Resources

theorem resolve_eq_find? (resources : Resources) (logical : Path) (extensions : List String) :
    resources.resolve logical extensions = (logical.candidates extensions).find? resources.has := by
  unfold resolve Path.candidates
  split <;> simp_all

theorem mem_candidates_of_resolve {resources : Resources} {logical file : Path}
    {extensions : List String} (h : resources.resolve logical extensions = some file) :
    file ∈ logical.candidates extensions ∧ resources.has file := by
  rw [resolve_eq_find?] at h
  exact ⟨List.mem_of_find?_eq_some h, List.find?_some h⟩

/-- What a logical path is resolved to depends on which of its candidates there are. -/
theorem resolve_congr {resources resources' : Resources} {logical : Path} {extensions : List String}
    (same : ∀ file ∈ logical.candidates extensions, resources.has file = resources'.has file) :
    resources.resolve logical extensions = resources'.resolve logical extensions := by
  rw [resolve_eq_find?, resolve_eq_find?]
  exact List.find?_congr same

/-- Resources that have the same text for a path, or both no file. -/
structure Alike (resources resources' : Resources) (file : Path) : Prop where
  has : resources.has file = resources'.has file
  text : resources.has file → resources.readText file = resources'.readText file

/-- A logical path whose candidates are alike is resolved to the same file with the same text. -/
theorem resolve_congr_of_alike {resources resources' : Resources} {logical : Path}
    {extensions : List String}
    (alike : ∀ file ∈ logical.candidates extensions, resources.Alike resources' file) :
    resources.resolve logical extensions = resources'.resolve logical extensions
      ∧ ∀ file, resources.resolve logical extensions = some file →
          resources.readText file = resources'.readText file := by
  refine ⟨resolve_congr fun file candidate => (alike file candidate).has, fun file resolved => ?_⟩
  obtain ⟨candidate, has⟩ := mem_candidates_of_resolve resolved
  exact (alike file candidate).text has

end Resources

end Folio
