import Folio.Proofs.Render.Walk
import Folio.Proofs.Resources.Finite
import Mathlib.Data.List.Chain
import Mathlib.Data.List.Perm.Subperm

/-!
# The trail of a walk

The files of a walk are linked by the layouts that their front matter names, and no two of them are
the same file. Which layout a file names is told by its text alone, so all files of the walk but the
last one have different texts, and a walk over finitely many texts ends.

Main definitions:
- `Pipeline.NamesLayout`: one file names another as its layout
- `Pipeline.IsTrail`: a list of files, each the layout of the one before, without repetition

Main statements:
- `Pipeline.isTrail_of_reaches`: the files of a walk are a trail
- `Pipeline.IsTrail.length_le`: how long a trail over finite resources can be
-/

namespace Folio

namespace Pipeline

variable {S : Type}

/-! ## Section 1: Layouts by name -/

/-- The layout that is named in the front matter of `file` itself resolves to `layout`. -/
def NamesLayout (p : Pipeline S) (file layout : Path) : Prop :=
  ∃ text document name, p.resources.readText file = .ok text
    ∧ FrontMatter.parse Yaml.readMapping? text = .ok document
    ∧ document.vars.get? FrontMatter.layoutKey = some (.str name)
    ∧ p.resolve (p.layoutPath name) = some layout

variable {p : Pipeline S}

/-- Only a text is looked up as the name of a layout. -/
theorem layoutFile_eq_ok {file found : Path} {layout : Value}
    (h : p.layoutFile file layout = .ok found) :
    ∃ name, layout = .str name ∧ p.resolve (p.layoutPath name) = some found := by
  unfold layoutFile at h
  split at h
  · rename_i name
    split at h
    · rename_i resolved
      obtain rfl := Except.ok.inj h
      exact ⟨name, rfl, resolved⟩
    · cases h
  · cases h

/-- Files with one text name one layout. -/
theorem NamesLayout.eq {file₁ file₂ layout₁ layout₂ : Path}
    (same : p.resources.readText file₁ = p.resources.readText file₂)
    (h₁ : p.NamesLayout file₁ layout₁) (h₂ : p.NamesLayout file₂ layout₂) : layout₁ = layout₂ := by
  obtain ⟨text₁, document₁, name₁, read₁, split₁, named₁, resolved₁⟩ := h₁
  obtain ⟨text₂, document₂, name₂, read₂, split₂, named₂, resolved₂⟩ := h₂
  -- the text decides the document, the document the name, and the name the layout
  obtain rfl : text₁ = text₂ := by simpa [read₁, read₂] using same
  obtain rfl : document₁ = document₂ := by simpa [split₁] using split₂
  obtain rfl : name₁ = name₂ := by simpa [named₁] using named₂
  simpa [resolved₁] using resolved₂

theorem Expands.namesLayout {file layout : Path} {outer : Variables} {s s' : S}
    {document : FrontMatter} {body name : String}
    (expands : p.Expands file outer s document body s')
    (named : document.vars.get? FrontMatter.layoutKey = some (.str name))
    (resolved : p.resolve (p.layoutPath name) = some layout) : p.NamesLayout file layout := by
  obtain ⟨read, split, -, -⟩ := expands
  exact ⟨_, _, _, read, split, named, resolved⟩

/-- The layout that a file names is found again in the document that it is split into. -/
theorem Expands.exists_name {file layout : Path} {outer : Variables} {s s' : S}
    {document : FrontMatter} {body : String}
    (expands : p.Expands file outer s document body s') (names : p.NamesLayout file layout) :
    ∃ name, document.vars.get? FrontMatter.layoutKey = some (.str name)
      ∧ p.resolve (p.layoutPath name) = some layout := by
  obtain ⟨read, split, -, -⟩ := expands
  obtain ⟨text, document', name, read', split', named, resolved⟩ := names
  obtain rfl := Except.ok.inj (read.symm.trans read')
  obtain rfl := Except.ok.inj (split.symm.trans split')
  exact ⟨name, named, resolved⟩

/-! ## Section 2: Trails -/

/-- A list of files without repetition, each the layout that the one before names. -/
structure IsTrail (p : Pipeline S) (files : List Path) : Prop where
  linked : files.IsChain p.NamesLayout
  distinct : files.Pairwise fun earlier later => ¬ later.equiv earlier

/-- What a walk has come by is a trail from its document. -/
theorem isTrail_of_reaches {document : Path} {caller : Variables} {s : S} {there : Walk × S}
    (reaches : p.Reaches (Walk.start document caller, s) there) :
    p.IsTrail there.1.files ∧ there.1.files.head? = some document := by
  -- a trail grows by the layout of its last file, which the turn has told from the others
  induction reaches with
  | refl =>
    exact ⟨⟨List.isChain_singleton _, List.pairwise_singleton _ _⟩, rfl⟩
  | @tail here there _ turn ih =>
    obtain ⟨⟨linked, distinct⟩, head⟩ := ih
    obtain ⟨w', s'⟩ := there
    cases turn with
    | wrapped expands named resolved fresh =>
      refine ⟨⟨?_, ?_⟩, ?_⟩
      · refine List.IsChain.append linked (List.isChain_singleton _) ?_
        simp only [Walk.files, List.getLast?_concat, List.head?_singleton, Option.mem_def,
          Option.some.injEq, forall_eq']
        exact expands.namesLayout named resolved
      · refine List.pairwise_append.mpr ⟨distinct, List.pairwise_singleton _ _, ?_⟩
        simpa using fresh
      · simp only [Walk.files] at head ⊢
        rw [List.head?_append, head]
        rfl

/-- Every file of a linked list but the last one names one that comes after the first. -/
theorem exists_layout_of_mem_dropLast {files : List Path} {file : Path}
    (linked : files.IsChain p.NamesLayout) (mem : file ∈ files.dropLast) :
    ∃ layout ∈ files.tail, p.NamesLayout file layout := by
  -- on the links: what the first file names is the second
  induction linked with
  | nil => simp at mem
  | singleton => simp at mem
  | @cons_cons first second rest names _ ih =>
    rw [List.dropLast_cons_cons, List.mem_cons] at mem
    obtain rfl | mem := mem
    · exact ⟨second, by simp, names⟩
    · obtain ⟨layout, later, h⟩ := ih mem
      exact ⟨layout, List.mem_cons_of_mem _ later, h⟩

/-- The files of a trail have different texts, apart from the last one. -/
theorem IsTrail.nodup_texts {files : List Path} (trail : p.IsTrail files) :
    (files.dropLast.map p.resources.readText).Nodup := by
  obtain ⟨linked, distinct⟩ := trail
  -- on the links again, since a file is told from those after it
  induction linked with
  | nil => simp
  | singleton => simp
  | @cons_cons first second rest names linked ih =>
    obtain ⟨-, distinct⟩ := List.pairwise_cons.mp distinct
    rw [List.dropLast_cons_cons, List.map_cons, List.nodup_cons]
    refine ⟨fun mem => ?_, ih distinct⟩
    obtain ⟨file, passed, same⟩ := List.mem_map.mp mem
    obtain ⟨layout, later, h⟩ := exists_layout_of_mem_dropLast linked passed
    -- the second file would be named once more, further on
    have again : layout = second := NamesLayout.eq same h names
    obtain ⟨different, -⟩ := List.pairwise_cons.mp distinct
    exact different layout later (by simp [Path.equiv, again])

/-- A trail is at most one file longer than there are texts. -/
theorem IsTrail.length_le {files : List Path} (trail : p.IsTrail files)
    (finite : p.resources.IsFinite) : files.length ≤ p.resources.size + 1 := by
  obtain ⟨texts, bound, readable⟩ := finite
  -- all files but the last one name a layout, so they can be read
  have subset : files.dropLast.map p.resources.readText ⊆ texts.map Except.ok := by
    intro read mem
    obtain ⟨file, passed, rfl⟩ := List.mem_map.mp mem
    obtain ⟨layout, -, text, document, name, read, -⟩ :=
      exists_layout_of_mem_dropLast trail.linked passed
    rw [read]
    exact List.mem_map_of_mem (readable _ _ read)
  have length := (List.subperm_of_subset trail.nodup_texts subset).length_le
  simp only [List.length_map, List.length_dropLast] at length
  omega

end Pipeline

end Folio
