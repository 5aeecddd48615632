import Folio.Proofs.Render.Outcome

/-!
# Cycles of layouts

Layouts may name each other in any way. Rendering over finitely many files ends all the same, since
it goes to no file twice: a layout that is on the way already is refused, with the way to it.

Main definitions:
- `Pipeline.Processed`: the files of a walk are handled without a failure
- `Pipeline.noting`: a pipeline that keeps a list of the files it compiles

Main statement: `Pipeline.layout_recursion`.
-/

namespace Folio

namespace Pipeline

variable {S : Type} {p : Pipeline S} {logical document : Path} {caller : Variables} {s : S}

/-! ## Section 1: The chain of a cycle -/

/-- The files of a list are read, split, compiled and expanded in turn, each over the scope of the
one before. -/
def Processed (p : Pipeline S) : List Path → Variables → S → Prop
  | [], _, _ => True
  | file :: rest, outer, s => ∃ document body s', p.Expands file outer s document body s'
      ∧ p.Processed rest (Scope.merge document.vars outer).vars s'

/-- A chain is a trail from the document, and then a file of that trail again, which is the layout
of the last one. -/
structure IsCycle (p : Pipeline S) (document : Path) (files : List Path) (again : Path) : Prop where
  head : files.head? = some document
  trail : p.IsTrail files
  named : ∀ last ∈ files.getLast?, p.NamesLayout last again
  seen : ∃ file ∈ files, again.equiv file

/-- The chain that is told of a cycle. -/
theorem isCycle_of_outcome {chain : List Path} {s' : S}
    (outcome : p.Outcome logical caller s (.error (.layoutCycle chain), s')) :
    ∃ document files again, p.resolve logical = some document ∧ chain = files ++ [again]
      ∧ p.IsCycle document files again := by
  cases outcome with
  | @walked document w s₁ _ _ resolved reaches last =>
    obtain ⟨trail, head⟩ := isTrail_of_reaches reaches
    -- only a layout that is repeated ends a walk with a cycle
    cases last with
    | failed fails => cases fails
    | repeated expands named found seen =>
      refine ⟨document, w.files, _, resolved, rfl, head, trail, ?_, seen⟩
      simp only [Walk.files, List.getLast?_concat, Option.mem_def, Option.some.injEq, forall_eq']
      exact expands.namesLayout named found

/-- A walk goes along a trail as long as its files are processed. -/
theorem reaches_of_processed {w : Walk} {rest : List Path} (trail : p.IsTrail (w.files ++ rest))
    (processed : p.Processed (w.file :: rest) w.outer s) :
    ∃ w' s₁ document body s', p.Reaches (w, s) (w', s₁) ∧ w'.files = w.files ++ rest
      ∧ p.Expands w'.file w'.outer s₁ document body s' := by
  -- on the rest of the trail: every turn takes one file off it
  induction rest generalizing w s with
  | nil =>
    obtain ⟨document, body, s', expands, -⟩ := processed
    exact ⟨w, s, document, body, s', .refl, by simp, expands⟩
  | cons next rest ih =>
    obtain ⟨document, body, s', expands, processed⟩ := processed
    have files : w.files ++ next :: rest = w.passed ++ w.file :: next :: rest := by
      simp [Walk.files]
    obtain ⟨-, names, -⟩ := List.isChain_append_cons_cons.mp (files ▸ trail.linked)
    -- no file of a trail comes twice, so the walk is not ended here
    have fresh : ¬ ∃ file ∈ w.files, next.equiv file := by
      rintro ⟨file, passed, same⟩
      obtain ⟨-, -, apart⟩ := List.pairwise_append.mp trail.distinct
      exact apart file passed next (List.mem_cons_self ..) same
    obtain ⟨name, named, resolved⟩ := expands.exists_name names
    obtain ⟨w', s₁, document', body', s₂, reaches, files', expands'⟩ :=
      ih (w := { passed := w.files, file := next, .. }) (by simpa [Walk.files] using trail) processed
    refine ⟨w', s₁, document', body', s₂, .head ?_ reaches, ?_, expands'⟩
    · exact Turn.wrapped expands named resolved fresh
    · simpa [Walk.files] using files'

/-- A cycle whose files are processed is told with its chain. -/
theorem outcome_of_isCycle {files : List Path} {again : Path}
    (resolved : p.resolve logical = some document) (cycle : p.IsCycle document files again)
    (processed : p.Processed files caller s) :
    ∃ s', p.Outcome logical caller s (.error (.layoutCycle (files ++ [again])), s') := by
  obtain ⟨head, trail, named, seen⟩ := cycle
  obtain ⟨rest, rfl⟩ := List.head?_eq_some_iff.mp head
  obtain ⟨w, s₁, fm, body, s', reaches, passed, expands⟩ :=
    reaches_of_processed (w := Walk.start document caller) trail processed
  have passed : w.files = document :: rest := passed
  have last : w.file ∈ (document :: rest).getLast? := by
    rw [← passed, Walk.files, List.getLast?_concat]
    rfl
  -- at the end of the trail the walk is led back to one of its files
  obtain ⟨name, named, found⟩ := expands.exists_name (named _ last)
  rw [← passed] at seen ⊢
  exact ⟨s', .walked resolved reaches (.repeated expands named found seen)⟩

/-! ## Section 2: No file twice -/

/-- The same pipeline, which also keeps a list of the files that it compiles, in their order. -/
def noting (p : Pipeline S) : Pipeline (S × List Path) :=
  { p with
    compile := fun file text site => do
      let (s, noted) ← get
      let (result, s') := (p.compile file text site).run s
      set (s', noted ++ [file])
      return result }

theorem noting_compile (p : Pipeline S) (file : Path) (text : String) (site : Site) (s : S)
    (noted : List Path) :
    (p.noting.compile file text site).run (s, noted)
      = (((p.compile file text site).run s).1,
          (((p.compile file text site).run s).2, noted ++ [file])) := rfl

theorem noted_of_expands {file : Path} {outer : Variables} {s s' : S × List Path}
    {document : FrontMatter} {body : String}
    (expands : p.noting.Expands file outer s document body s') : s'.2 = s.2 ++ [file] := by
  obtain ⟨-, -, compile, -⟩ := expands
  rw [noting_compile] at compile
  exact congrArg (fun r => r.2.2) compile.symm

theorem noted_of_fails {file : Path} {outer : Variables} {s s' : S × List Path} {e : RenderError}
    (fails : p.noting.Fails file outer s e s') : s'.2 = s.2 ∨ s'.2 = s.2 ++ [file] := by
  -- a file that cannot be read or split is not compiled
  cases fails with
  | unreadable | unsplit => exact .inl rfl
  | uncompiled _ _ compile | unexpanded _ _ compile _ =>
    rw [noting_compile] at compile
    exact .inr (congrArg (fun r => r.2.2) compile.symm)

/-- The files that have been noted along a walk are those that it has passed. -/
theorem noted_of_reaches {there : Walk × (S × List Path)}
    (reaches : p.noting.Reaches (Walk.start document caller, (s, [])) there) :
    there.2.2 = there.1.passed := by
  induction reaches with
  | refl => rfl
  | @tail here there _ turn ih =>
    rw [passed_of_onward turn, Walk.files, ← ih]
    obtain ⟨w', s'⟩ := there
    cases turn with
    | wrapped expands => exact noted_of_expands expands

/-- No file is compiled twice in one rendering. -/
theorem noted_distinct (finite : p.resources.IsFinite) (logical : Path) (caller : Variables) (s : S) :
    ((p.noting.render logical caller).runFrom (s, [])).2.2.Pairwise
      fun earlier later => ¬ later.equiv earlier := by
  have outcome := outcome_render (p := p.noting) finite logical caller (s, [])
  generalize (p.noting.render logical caller).runFrom (s, []) = r at outcome
  cases outcome with
  | notFound => exact .nil
  | @walked document w s₁ s' result _ reaches last =>
    -- what has been noted is the trail, perhaps without a last file that failed
    have noted := noted_of_reaches reaches
    have trail := (isTrail_of_reaches reaches).1.distinct
    have final : s'.2 = s₁.2 ∨ s'.2 = s₁.2 ++ [w.file] := by
      cases last with
      | failed fails => exact noted_of_fails fails
      | closed expands | invalid expands | missing expands | repeated expands =>
        exact .inr (noted_of_expands expands)
    dsimp only at noted
    obtain h | h := final
    · rw [h, noted]
      exact trail.sublist (List.sublist_append_left ..)
    · rw [h, noted]
      exact trail

/-! ## Section 3: The recursion -/

/-- Rendering over finitely many files ends: it takes no more room than it has, and compiles no file
twice. A cycle that it tells is one of the walk from the document, and a cycle of that walk is told,
with just its chain, if all of its files can be processed. -/
theorem layout_recursion (p : Pipeline S) (finite : p.resources.IsFinite) (logical : Path)
    (caller : Variables) (s : S) :
    (∀ depth, p.depth ≤ depth →
        (p.renderWithin depth logical caller).runFrom s = (p.render logical caller).runFrom s)
      ∧ ((p.noting.render logical caller).runFrom (s, [])).2.2.Pairwise
          (fun earlier later => ¬ later.equiv earlier)
      ∧ (∀ chain s', (p.render logical caller).runFrom s = (.error (.layoutCycle chain), s') →
          ∃ document files again, p.resolve logical = some document ∧ chain = files ++ [again]
            ∧ p.IsCycle document files again)
      ∧ (∀ document files again, p.resolve logical = some document →
          p.IsCycle document files again → p.Processed files caller s →
          ∃ s', (p.render logical caller).runFrom s
            = (.error (.layoutCycle (files ++ [again])), s'))
      ∧ ((∀ document files again, p.resolve logical = some document →
            ¬ p.IsCycle document files again) →
          ∀ chain s', (p.render logical caller).runFrom s ≠ (.error (.layoutCycle chain), s')) := by
  have told (chain : List Path) (s' : S)
      (result : (p.render logical caller).runFrom s = (.error (.layoutCycle chain), s')) :
      ∃ document files again, p.resolve logical = some document ∧ chain = files ++ [again]
        ∧ p.IsCycle document files again :=
    isCycle_of_outcome (result ▸ outcome_render finite logical caller s)
  refine ⟨fun depth room => renderWithin_eq_render finite room logical caller s,
    noted_distinct finite logical caller s, told, ?_, ?_⟩
  · intro document files again resolved cycle processed
    obtain ⟨s', outcome⟩ := outcome_of_isCycle resolved cycle processed
    exact ⟨s', (outcome_render finite logical caller s).eq outcome⟩
  · intro acyclic chain s' result
    obtain ⟨document, files, again, resolved, -, cycle⟩ := told chain s' result
    exact acyclic document files again resolved cycle

/-- Two layouts that name each other, below a page. -/
theorem isCycle_of_two_layouts :
    let p := plain [("page.txt", "---\nlayout: a\n---\nx"),
      ("_layouts/a.html", "---\nlayout: b\n---\n"), ("_layouts/b.html", "---\nlayout: a\n---\n")]
    p.resources.IsFinite
      ∧ ∃ document files again, p.resolve (.ofString "page") = some document
        ∧ ["page.txt", "_layouts/a.html", "_layouts/b.html", "_layouts/a.html"].map Path.ofString
          = files ++ [again]
        ∧ p.IsCycle document files again :=
  ⟨plain_isFinite _,
    (layout_recursion _ (plain_isFinite _) (.ofString "page") .empty ()).2.2.1 _ ()
      (by decide +kernel)⟩

end Pipeline

end Folio
