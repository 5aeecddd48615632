import Folio.Proofs.Render.Outcome
import Folio.Proofs.Text.Replace
import Folio.Proofs.Variables
import Mathlib.Data.List.Infix

/-!
# How a document is put into its layouts

A document is put into its layout, and that into the layout around it: what comes out is nested, the
document innermost. The recursion does it the other way round. It begins with the outermost layout,
and puts every body into what it has. The two agree as long as no place holder comes about at a
seam, where one text ends and another begins.

Main definitions:
- `Pipeline.Unfolds`: the bodies that a document and the layouts around it expand to
- `composeOutward`, `composeInward`: bodies put together from the document out, or towards it
- `IsSeamless`: a layout that ends no segment with the beginning of a place holder

Main statement: `Pipeline.render_composes_outward`.
-/

namespace Folio

/-! ## Section 1: Putting bodies together -/

/-- The document put into its layout, that into the next one, and so on. -/
def composeOutward (body : String) (layouts : List String) : String :=
  layouts.foldl (fun inner layout => Text.replaceAll bodyPlaceholder inner layout) body

/-- The outermost layout, into which the next one is put, and so on to the document. -/
def composeInward : String → List String → String
  | body, [] => body
  | body, layout :: around => Text.replaceAll bodyPlaceholder body (composeInward layout around)

/-- No segment of a layout between, before or after its place holders ends with the beginning of a
place holder. -/
def IsSeamless (layout : String) : Prop :=
  ∀ segment ∈ Text.splitOnText bodyPlaceholder none layout, ∀ beginning,
    beginning <+: bodyPlaceholder.toList → beginning ≠ [] → beginning ≠ bodyPlaceholder.toList →
      ¬ beginning <:+ segment.toList

instance (layout : String) : Decidable (IsSeamless layout) :=
  decidable_of_iff (∀ segment ∈ Text.splitOnText bodyPlaceholder none layout,
      ∀ beginning ∈ bodyPlaceholder.toList.inits,
        beginning ≠ [] → beginning ≠ bodyPlaceholder.toList → ¬ beginning <:+ segment.toList)
    (by simp only [IsSeamless, List.mem_inits])

theorem bodyPlaceholder_ne_nil : bodyPlaceholder.toList ≠ [] := by decide

/-- A place holder does not end with its own beginning. -/
theorem isSealed_bodyPlaceholder :
    Text.IsSealed bodyPlaceholder.toList bodyPlaceholder.toList := by
  -- its endings are few enough to be looked at one by one
  have endings : ∀ ending ∈ bodyPlaceholder.toList.tails, ending <+: bodyPlaceholder.toList →
      ending = [] ∨ ending = bodyPlaceholder.toList := by
    decide
  exact fun ending isEnding => endings ending ((List.mem_tails _ _).mpr isEnding)

theorem replaceAll_bodyPlaceholder (new s : String) :
    Text.replaceAll bodyPlaceholder new s
      = String.ofList (Text.replaceIn bodyPlaceholder.toList new.toList s.toList) :=
  Text.replaceAll_eq bodyPlaceholder_ne_nil new s

theorem IsSeamless.hasSealedSegments {layout : String} (seamless : IsSeamless layout) :
    Text.HasSealedSegments bodyPlaceholder.toList layout.toList := by
  intro segment mem ending isEnding begins
  have mem' : String.ofList segment ∈ Text.splitOnText bodyPlaceholder none layout := by
    rw [Text.splitOnText_eq bodyPlaceholder_ne_nil]
    exact List.mem_map_of_mem mem
  by_contra neither
  push Not at neither
  apply seamless _ mem' ending begins neither.1 neither.2
  rwa [String.toList_ofList]

/-- Putting a text into a composition is putting it into the innermost part. -/
theorem replaceAll_composeOutward {layouts : List String}
    (seamless : ∀ layout ∈ layouts, IsSeamless layout) (new : String) {body : String}
    (isSealed : Text.IsSealed bodyPlaceholder.toList body.toList) :
    Text.replaceAll bodyPlaceholder new (composeOutward body layouts)
      = composeOutward (Text.replaceAll bodyPlaceholder new body) layouts := by
  -- on the layouts, for any sealed text that has been composed so far
  induction layouts generalizing body with
  | nil => rfl
  | cons layout around ih =>
    have segments := (seamless layout List.mem_cons_self).hasSealedSegments
    have around' : ∀ layout ∈ around, IsSeamless layout :=
      fun layout mem => seamless layout (List.mem_cons_of_mem _ mem)
    have wrapped : Text.IsSealed bodyPlaceholder.toList
        (Text.replaceAll bodyPlaceholder body layout).toList := by
      rw [replaceAll_bodyPlaceholder, String.toList_ofList]
      exact segments.isSealed_replaceIn bodyPlaceholder_ne_nil isSealed
    show Text.replaceAll bodyPlaceholder new
        (composeOutward (Text.replaceAll bodyPlaceholder body layout) around) = _
    rw [ih around' wrapped]
    -- the innermost layout is put into before or after the document is put into it
    have inner : Text.replaceAll bodyPlaceholder new (Text.replaceAll bodyPlaceholder body layout)
        = Text.replaceAll bodyPlaceholder (Text.replaceAll bodyPlaceholder new body) layout := by
      simp only [replaceAll_bodyPlaceholder, String.toList_ofList]
      rw [Text.replaceIn_replaceIn bodyPlaceholder_ne_nil segments isSealed]
    rw [inner]
    rfl

/-- Seamless layouts are put together the same way from inside and from outside. The document may be
any text. -/
theorem composeInward_eq_composeOutward {layouts : List String}
    (seamless : ∀ layout ∈ layouts, IsSeamless layout) (body : String) :
    composeInward body layouts = composeOutward body layouts := by
  induction layouts generalizing body with
  | nil => rfl
  | cons layout around ih =>
    have first := (seamless layout List.mem_cons_self).hasSealedSegments
    have around' : ∀ layout ∈ around, IsSeamless layout :=
      fun layout mem => seamless layout (List.mem_cons_of_mem _ mem)
    calc composeInward body (layout :: around)
        = Text.replaceAll bodyPlaceholder body (composeOutward layout around) := by
          rw [composeInward, ih around']
      _ = composeOutward (Text.replaceAll bodyPlaceholder body layout) around :=
          replaceAll_composeOutward around' body
            (first.isSealed bodyPlaceholder_ne_nil isSealed_bodyPlaceholder)
      _ = composeOutward body (layout :: around) := rfl

/-- A place holder that comes about at a seam is filled from outside, and left over from inside. -/
example :
    let layouts := ["dy]]", "[[quire:bo[[quire:body]]"]
    composeInward "x" layouts = "x" ∧ composeOutward "x" layouts = "[[quire:body]]" := by
  decide +kernel

/-! ## Section 2: The bodies of a rendering -/

namespace Pipeline

variable {S : Type} {p : Pipeline S} {file logical : Path} {outer caller : Variables} {s s' s'' : S}

/-- A file expands to a body, and the layouts around it to one body each, the innermost first. Every
layout is the one that the front matter of the file before names, and is expanded over the variables
of that file. -/
inductive Unfolds (p : Pipeline S) : Path → Variables → S → String → List String → S → Prop where
  | unwrapped {file : Path} {outer : Variables} {s s' : S} {document : FrontMatter} {body : String}
      (expands : p.Expands file outer s document body s') (unnamed : document.layout? = none) :
      Unfolds p file outer s body [] s'
  | wrapped {file layout : Path} {outer : Variables} {s s₁ s' : S} {document : FrontMatter}
      {body name next : String} {around : List String}
      (expands : p.Expands file outer s document body s₁)
      (named : document.layout? = some (.str name))
      (resolved : p.resolve (p.layoutPath name) = some layout)
      (others : Unfolds p layout (Scope.merge document.vars outer).vars s₁ next around s') :
      Unfolds p file outer s body (next :: around) s'

theorem Expands.eq {document document' : FrontMatter} {body body' : String}
    (h : p.Expands file outer s document body s')
    (h' : p.Expands file outer s document' body' s'') :
    document = document' ∧ body = body' ∧ s' = s'' := by
  obtain ⟨read, split, compile, expand⟩ := h
  obtain ⟨read', split', compile', expand'⟩ := h'
  -- each stage is a function of what the stages before it gave
  obtain rfl := Except.ok.inj (read.symm.trans read')
  obtain rfl := Except.ok.inj (split.symm.trans split')
  obtain ⟨compiled, rfl⟩ := Prod.mk.inj (compile.symm.trans compile')
  obtain rfl := Except.ok.inj compiled
  exact ⟨rfl, Except.ok.inj (expand.symm.trans expand'), rfl⟩

/-- A file has one row of bodies. -/
theorem Unfolds.eq {body body' : String} {layouts layouts' : List String}
    (h : p.Unfolds file outer s body layouts s') (h' : p.Unfolds file outer s body' layouts' s'') :
    body = body' ∧ layouts = layouts' ∧ s' = s'' := by
  induction h generalizing body' layouts' with
  | unwrapped expands unnamed =>
    cases h' with
    | unwrapped expands' unnamed' =>
      obtain ⟨-, same, last⟩ := expands.eq expands'
      exact ⟨same, rfl, last⟩
    | wrapped expands' named' =>
      obtain ⟨rfl, -, -⟩ := expands.eq expands'
      simp [unnamed] at named'
  | wrapped expands named resolved others ih =>
    cases h' with
    | unwrapped expands' unnamed' =>
      obtain ⟨rfl, -, -⟩ := expands.eq expands'
      simp [unnamed'] at named
    | wrapped expands' named' resolved' others' =>
      obtain ⟨rfl, same, rfl⟩ := expands.eq expands'
      obtain rfl : _ = _ := Value.str.inj (Option.some.inj (named.symm.trans named'))
      obtain rfl := Option.some.inj (resolved.symm.trans resolved')
      obtain ⟨next, around, last⟩ := ih others'
      exact ⟨same, by rw [next, around], last⟩

/-- The recursion puts together the bodies of the file and of the layouts around it, from the
outermost on. -/
theorem unfolds_of_renderFile {depth : Nat} {chain : List Path} {output : String}
    (h : (p.renderFile depth file chain outer).runFrom s = (.ok output, s')) :
    ∃ body layouts, p.Unfolds file outer s body layouts s'
      ∧ output = composeInward body layouts := by
  -- on the room that is left: a layout has less of it
  induction depth generalizing file chain outer s s' output with
  | zero => simp [renderFile] at h
  | succ depth ih =>
    rw [renderFile] at h
    obtain ⟨e, s₁, fails⟩ | ⟨document, body, s₁, expands⟩ := p.fails_or_expands file outer s
    · rw [Step.runFrom_bind_error fails.expandFile] at h
      cases h
    · rw [Step.runFrom_bind_ok expands.expandFile] at h
      cases named : document.layout? with
      | none =>
        simp only [named, Step.runFrom_pure, Prod.mk.injEq, Except.ok.injEq] at h
        obtain ⟨rfl, rfl⟩ := h
        exact ⟨body, [], .unwrapped expands named, rfl⟩
      | some layout =>
        simp only [named] at h
        obtain ⟨found, s₂, looked, rest⟩ := Step.runFrom_bind_eq_ok h
        cases file' : p.layoutFile file layout with
        | error e => simp [file'] at looked
        | ok layoutPath =>
          obtain ⟨rfl, rfl⟩ : layoutPath = found ∧ s₁ = s₂ := by simpa [file'] using looked
          obtain ⟨name, rfl, resolved⟩ := layoutFile_eq_ok file'
          split at rest
          · cases rest
          · -- the body is put into what the layout is rendered to
            obtain ⟨wrapped, s₃, inner, returned⟩ := Step.runFrom_bind_eq_ok rest
            obtain ⟨next, around, others, rfl⟩ := ih inner
            simp only [Step.runFrom_pure, Prod.mk.injEq, Except.ok.injEq] at returned
            obtain ⟨rfl, rfl⟩ := returned
            exact ⟨body, next :: around, .wrapped expands named resolved others, rfl⟩

/-! ## Section 3: The composition -/

/-- A rendering that gives a text gives the bodies of the document and its layouts put together. If
the layouts are seamless, it makes no difference from which end: the text is the document put into
its layout, that into the next, and so on, whatever the body of the document contains. -/
theorem render_composes_outward {output : String}
    (rendered : (p.render logical caller).runFrom s = (.ok output, s')) :
    (∃ document body layouts, p.resolve logical = some document ∧
      p.Unfolds document caller s body layouts s') ∧
    ∀ document body layouts s'', p.resolve logical = some document →
      p.Unfolds document caller s body layouts s'' →
        output = composeInward body layouts ∧
        ((∀ layout ∈ layouts, IsSeamless layout) → output = composeOutward body layouts) := by
  cases found : p.resolve logical with
  | none => simp [render, renderWithin, found] at rendered
  | some document =>
    rw [render, renderWithin_of_resolve found, resume_start] at rendered
    obtain ⟨body, layouts, unfolds, composed⟩ := unfolds_of_renderFile rendered
    refine ⟨⟨document, body, layouts, rfl, unfolds⟩, ?_⟩
    intro document' body' layouts' s'' same unfolds'
    obtain rfl := Option.some.inj same
    obtain ⟨rfl, rfl, -⟩ := unfolds.eq unfolds'
    refine ⟨composed, fun seamless => ?_⟩
    rw [composed, composeInward_eq_composeOutward seamless]

/-- A page that holds a place holder, in two layouts. -/
theorem render_composes_outward_two_layouts :
    let p := plain [("page.txt", "---\nlayout: a\n---\nx[[quire:body]]"),
      ("_layouts/a.html", "---\nlayout: b\n---\n<[[quire:body]]>"),
      ("_layouts/b.html", "([[quire:body]])")]
    let layouts := ["<[[quire:body]]>", "([[quire:body]])"]
    p.Unfolds (.ofString "page.txt") .empty () "x[[quire:body]]" layouts () ∧
      (∀ layout ∈ layouts, IsSeamless layout) ∧
      (p.render (.ofString "page") .empty).runFrom () = (.ok "(<x[[quire:body]]>)", ()) ∧
      composeOutward "x[[quire:body]]" layouts = "(<x[[quire:body]]>)" := by
  intro p layouts
  -- from the outermost layout to the page
  have layoutB : FrontMatter.parse Yaml.readMapping? "([[quire:body]])"
      = .ok ⟨⟨[]⟩, "([[quire:body]])"⟩ :=
    FrontMatter.eq_ok_of_texts [] (by decide +kernel)
  have inB : p.Unfolds (.ofString "_layouts/b.html")
      (Scope.merge ⟨[("layout", .str "b")]⟩
        (Scope.merge ⟨[("layout", .str "a")]⟩ .empty).vars).vars () "([[quire:body]])" [] () :=
    .unwrapped (.intro rfl layoutB rfl rfl) rfl
  have layoutA : FrontMatter.parse Yaml.readMapping? "---\nlayout: b\n---\n<[[quire:body]]>"
      = .ok ⟨⟨[("layout", .str "b")]⟩, "<[[quire:body]]>"⟩ :=
    FrontMatter.eq_ok_of_texts [("layout", "b")] (by decide +kernel)
  have inA : p.Unfolds (.ofString "_layouts/a.html")
      (Scope.merge ⟨[("layout", .str "a")]⟩ .empty).vars () "<[[quire:body]]>"
      ["([[quire:body]])"] () :=
    .wrapped (.intro rfl layoutA rfl rfl) rfl rfl inB
  have page : FrontMatter.parse Yaml.readMapping? "---\nlayout: a\n---\nx[[quire:body]]"
      = .ok ⟨⟨[("layout", .str "a")]⟩, "x[[quire:body]]"⟩ :=
    FrontMatter.eq_ok_of_texts [("layout", "a")] (by decide +kernel)
  have unfolds : p.Unfolds (.ofString "page.txt") .empty () "x[[quire:body]]" layouts () :=
    .wrapped (.intro rfl page rfl rfl) rfl rfl inA
  have rendered : (p.render (.ofString "page") .empty).runFrom ()
      = (.ok "(<x[[quire:body]]>)", ()) := by
    decide +kernel
  have seamless : ∀ layout ∈ layouts, IsSeamless layout := by decide +kernel
  exact ⟨unfolds, seamless, rendered,
    (((render_composes_outward rendered).2 _ _ _ _ (by decide +kernel) unfolds).2 seamless).symm⟩

end Pipeline

end Folio
