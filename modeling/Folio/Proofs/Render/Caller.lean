import Folio.Proofs.Render.Cycle
import Folio.Proofs.Render.Dependence

/-!
# What the variables of a caller decide

The variables of a caller are seen by templates and by nothing else. Which layout comes next is said by
the front matter of each file alone, so two renderings of a document over different variables go from
file to file in step, until one of them fails to expand a file.

Main definitions:
- `Rendering.InStep`: two renderings that only a failed expansion can part
- `Pipeline.compiledFiles`: the files of a rendering

Main statements:
- `Pipeline.renderFile_inStep`: the recursion goes in step over any variables
- `Pipeline.compiledFiles_of_callers`: callers choose no layouts
-/

namespace Folio

/-- If the results of two parts do not depend on where they start, neither does that of the whole. -/
theorem Step.result_bind_congr {σ τ ε α β : Type} {x : Step σ ε α} {y : Step τ ε α}
    {next : α → Step σ ε β} {next' : α → Step τ ε β} {s : σ} {t : τ}
    (first : (x.runFrom s).1 = (y.runFrom t).1)
    (second : ∀ a s' t', ((next a).runFrom s').1 = ((next' a).runFrom t').1) :
    ((x >>= next).runFrom s).1 = ((y >>= next').runFrom t).1 := by
  cases left : x.runFrom s with
  | mk result s' =>
    cases right : y.runFrom t with
    | mk result' t' =>
      obtain rfl : result = result' := by simpa [left, right] using first
      cases result with
      | error e => rw [Step.runFrom_bind_error left, Step.runFrom_bind_error right]
      | ok a => rw [Step.runFrom_bind_ok left, Step.runFrom_bind_ok right, second a s' t']

/-! ## Section 1: Renderings in step -/

namespace Rendering

variable {S α β γ δ ε : Type}

/-- A result that says that a file could not be expanded. -/
def Unexpanded (result : Except RenderError α) : Prop :=
  ∃ file cause, result = .error (.expand file cause)

/-- Two values for which `A` holds, or one failure. -/
inductive SameEnd (A : α → β → Prop) : Except RenderError α → Except RenderError β → Prop where
  | ok {a : α} {b : β} (related : A a b) : SameEnd A (.ok a) (.ok b)
  | error (e : RenderError) : SameEnd A (.error e) (.error e)

theorem SameEnd.ok_or_error {A : α → β → Prop} {r : Except RenderError α} {r' : Except RenderError β}
    (ends : SameEnd A r r') :
    (∃ a b, r = .ok a ∧ r' = .ok b) ∨ ∃ e, r = .error e ∧ r' = .error e := by
  cases ends with
  | ok _ => exact .inl ⟨_, _, rfl, rfl⟩
  | error e => exact .inr ⟨e, rfl, rfl⟩

/-- From states of the compilers for which `Q` holds, two renderings end in the same way, in states
for which `Q` holds again, unless one of them fails to expand a file. -/
def InStep (Q : S → S → Prop) (A : α → β → Prop) (x : Rendering S α) (y : Rendering S β) : Prop :=
  ∀ s t, Q s t → Unexpanded (x.runFrom s).1 ∨ Unexpanded (y.runFrom t).1
    ∨ (SameEnd A (x.runFrom s).1 (y.runFrom t).1 ∧ Q (x.runFrom s).2 (y.runFrom t).2)

variable {Q : S → S → Prop} {A : α → β → Prop} {B : γ → δ → Prop}

theorem inStep_pure {a : α} {b : β} (related : A a b) :
    InStep Q A (pure a : Rendering S α) (pure b : Rendering S β) :=
  fun _ _ same => .inr (.inr ⟨.ok related, same⟩)

theorem inStep_throw (e : RenderError) :
    InStep Q A (throw e : Rendering S α) (throw e : Rendering S β) :=
  fun _ _ same => .inr (.inr ⟨.error e, same⟩)

theorem inStep_ofExcept (cause : ε → RenderError) (result : Except ε α) :
    InStep Q Eq (ofExcept cause result : Rendering S α) (ofExcept cause result) := by
  cases result with
  | ok a => exact inStep_pure rfl
  | error e => exact inStep_throw (cause e)

/-- Whatever expanding a file gives, only a failure parts two renderings. -/
theorem inStep_expand (file : Path) (result result' : Except Template.Fault String) :
    InStep Q (fun _ _ => True) (ofExcept (.expand file) result : Rendering S String)
      (ofExcept (.expand file) result') := by
  intro s t same
  cases result with
  | error cause => exact .inl ⟨file, cause, rfl⟩
  | ok body =>
    cases result' with
    | error cause => exact .inr (.inl ⟨file, cause, rfl⟩)
    | ok body' => exact .inr (.inr ⟨.ok trivial, same⟩)

theorem InStep.bind {x : Rendering S α} {y : Rendering S β} {next : α → Rendering S γ}
    {next' : β → Rendering S δ} (first : InStep Q A x y)
    (second : ∀ a b, A a b → InStep Q B (next a) (next' b)) :
    InStep Q B (x >>= next) (y >>= next') := by
  intro s t same
  -- the first parts have ended in one of three ways, and a failure ends the whole
  rcases first s t same with ⟨file, cause, failed⟩ | ⟨file, cause, failed⟩ | ⟨ends, same'⟩
  · have run : x.runFrom s = (.error (.expand file cause), (x.runFrom s).2) := Prod.ext failed rfl
    rw [Step.runFrom_bind_error run]
    exact .inl ⟨file, cause, rfl⟩
  · have run : y.runFrom t = (.error (.expand file cause), (y.runFrom t).2) := Prod.ext failed rfl
    rw [Step.runFrom_bind_error run next']
    exact .inr (.inl ⟨file, cause, rfl⟩)
  · cases left : x.runFrom s with
    | mk result s' =>
      cases right : y.runFrom t with
      | mk result' t' =>
        rw [left, right] at ends same'
        cases ends with
        | error e =>
          rw [Step.runFrom_bind_error left, Step.runFrom_bind_error right]
          exact .inr (.inr ⟨.error e, same'⟩)
        | ok related =>
          rw [Step.runFrom_bind_ok left, Step.runFrom_bind_ok right]
          exact second _ _ related s' t' same'

end Rendering

/-! ## Section 2: The recursion in step -/

namespace Pipeline

open Rendering (InStep inStep_pure inStep_throw inStep_ofExcept inStep_expand)

variable {S : Type} {p : Pipeline S} {Q : S → S → Prop}

/-- Compilers that convert a file to the same from any two states for which `Q` holds. -/
def ConvertsAlike (p : Pipeline S) (Q : S → S → Prop) : Prop :=
  ∀ s t, Q s t → ∀ file text,
    ((p.compilers file text).run s).1 = ((p.compilers file text).run t).1
      ∧ Q ((p.compilers file text).run s).2 ((p.compilers file text).run t).2

theorem compile_inStep (alike : p.ConvertsAlike Q) (file : Path) (text : String) :
    InStep Q Eq (p.compile file text p.site : StateM S _) (p.compile file text p.site : StateM S _) := by
  intro s t same
  obtain ⟨result, same'⟩ := alike s t same file text
  rw [Step.runFrom_lift, Step.runFrom_lift]
  refine .inr (.inr ⟨?_, same'⟩)
  rw [show ((p.compile file text p.site).run s).1 = ((p.compile file text p.site).run t).1 from result]
  exact .ok rfl

/-- Over any variables, a file is expanded in step, and names the same layout. -/
theorem expandFile_inStep (alike : p.ConvertsAlike Q) (file : Path) (caller caller' : Variables) :
    InStep Q (fun expanded expanded' => expanded.layout? = expanded'.layout?)
      (p.expandFile file caller) (p.expandFile file caller') := by
  unfold expandFile
  -- the stages in their order; the last one alone sees the variables
  refine (inStep_ofExcept _ _).bind ?_
  rintro text _ rfl
  refine (inStep_ofExcept _ _).bind ?_
  rintro document _ rfl
  refine (compile_inStep alike _ _).bind ?_
  rintro result _ rfl
  refine (inStep_ofExcept _ _).bind ?_
  rintro compiled _ rfl
  refine (inStep_expand file _ _).bind ?_
  rintro body body' -
  exact inStep_pure rfl

/-- Over any variables, a file and the layouts around it are rendered in step. -/
theorem renderFile_inStep (alike : p.ConvertsAlike Q) (depth : Nat) (file : Path) (chain : List Path)
    (caller caller' : Variables) :
    InStep Q (fun _ _ => True) (p.renderFile depth file chain caller)
      (p.renderFile depth file chain caller') := by
  -- on the room, for any variables: those that a layout sees come from both the caller and the file
  induction depth generalizing file chain caller caller' with
  | zero => exact inStep_throw _
  | succ depth ih =>
    unfold renderFile
    refine (expandFile_inStep alike file caller caller').bind fun expanded expanded' layout => ?_
    rw [← layout]
    cases expanded.layout? with
    | none => exact inStep_pure trivial
    | some layout =>
      refine (inStep_ofExcept _ _).bind ?_
      rintro found _ rfl
      split
      · exact inStep_throw _
      · exact (ih _ _ _ _).bind fun _ _ _ => inStep_pure trivial

theorem render_inStep (alike : p.ConvertsAlike Q) (logical : Path) (caller caller' : Variables) :
    InStep Q (fun _ _ => True) (p.render logical caller) (p.render logical caller') := by
  unfold render renderWithin
  cases p.resolve logical with
  | none => exact inStep_throw _
  | some file => exact renderFile_inStep alike _ _ _ _ _

/-! ## Section 3: Keeping a list makes no difference -/

variable {file : Path} {outer : Variables} {s s' : S}

theorem noting_compile_eq {text : String} {result : Except CompileError String}
    (compile : (p.compile file text p.site).run s = (result, s')) (noted : List Path) :
    (p.noting.compile file text p.noting.site).run (s, noted) = (result, (s', noted ++ [file])) := by
  show (((p.compile file text p.site).run s).1, (((p.compile file text p.site).run s).2, noted ++ [file]))
    = _
  rw [compile]

theorem Fails.noting {e : RenderError} (fails : p.Fails file outer s e s') (noted : List Path) :
    ∃ noted', p.noting.Fails file outer (s, noted) e (s', noted') := by
  cases fails with
  | unreadable read => exact ⟨noted, .unreadable read⟩
  | unsplit read split => exact ⟨noted, .unsplit read split⟩
  | uncompiled read split compile =>
    exact ⟨noted ++ [file], .uncompiled read split (noting_compile_eq compile noted)⟩
  | unexpanded read split compile expand =>
    exact ⟨noted ++ [file], .unexpanded read split (noting_compile_eq compile noted) expand⟩

theorem Expands.noting {document : FrontMatter} {body : String}
    (expands : p.Expands file outer s document body s') (noted : List Path) :
    p.noting.Expands file outer (s, noted) document body (s', noted ++ [file]) := by
  obtain ⟨read, split, compile, expand⟩ := expands
  exact .intro read split (noting_compile_eq compile noted) expand

/-- A pipeline that keeps a list of its files renders like the one without. -/
theorem noting_renderFile (p : Pipeline S) (depth : Nat) (file : Path) (chain : List Path)
    (caller : Variables) (s : S) (noted : List Path) :
    ((p.noting.renderFile depth file chain caller).runFrom (s, noted)).1
      = ((p.renderFile depth file chain caller).runFrom s).1 := by
  induction depth generalizing file chain caller s noted with
  | zero => rfl
  | succ depth ih =>
    rw [renderFile, renderFile]
    obtain ⟨e, s', fails⟩ | ⟨document, body, s', expands⟩ := p.fails_or_expands file caller s
    · obtain ⟨noted', fails'⟩ := fails.noting noted
      rw [Step.runFrom_bind_error fails.expandFile, Step.runFrom_bind_error fails'.expandFile]
    · rw [Step.runFrom_bind_ok expands.expandFile, Step.runFrom_bind_ok (expands.noting noted).expandFile]
      cases document.layout? with
      | none => rfl
      | some layout =>
        have same : p.noting.layoutFile file layout = p.layoutFile file layout := rfl
        dsimp only
        rw [same]
        cases p.layoutFile file layout with
        | error e => rfl
        | ok found =>
          rw [Step.runFrom_bind_ok (Rendering.runFrom_ofExcept_ok ..),
            Step.runFrom_bind_ok (Rendering.runFrom_ofExcept_ok ..)]
          split
          · rfl
          · exact Step.result_bind_congr (ih _ _ _ _ _) fun _ _ _ => rfl

theorem noting_render (p : Pipeline S) (logical : Path) (caller : Variables) (s : S)
    (noted : List Path) :
    ((p.noting.render logical caller).runFrom (s, noted)).1
      = ((p.render logical caller).runFrom s).1 := by
  unfold render renderWithin
  have same : p.noting.resolve logical = p.resolve logical := rfl
  rw [same]
  cases p.resolve logical with
  | none => rfl
  | some file => exact noting_renderFile p p.depth file [file] caller s noted

/-! ## Section 4: Callers -/

/-- The files that a rendering compiles, in their order. -/
def compiledFiles (p : Pipeline S) (logical : Path) (caller : Variables) (s : S) : List Path :=
  ((p.noting.render logical caller).runFrom (s, [])).2.2

/-- Functions convert a file to the same at any two times, and are noted alike. -/
theorem noting_convertsAlike (functional : p.compilers.IsFunctional s) :
    p.noting.ConvertsAlike fun t u =>
      p.compilers.History s t.1 ∧ p.compilers.History s u.1 ∧ t.2 = u.2 := by
  rintro ⟨t, noted⟩ ⟨u, noted'⟩ ⟨before, before', rfl⟩ file text
  have result : ((p.compilers file text).run t).1 = ((p.compilers file text).run u).1 := by
    rw [functional t before, functional u before']
  exact ⟨result, before.next file text, before'.next file text, rfl⟩

/-- If compilers are functions, the variables of a caller do not change which layouts wrap a document:
two renderings that expand every file they come to go to the same files, and both succeed or end with
one failure. -/
theorem compiledFiles_of_callers (functional : p.compilers.IsFunctional s) {s₁ s₂ : S}
    (before₁ : p.compilers.History s s₁) (before₂ : p.compilers.History s s₂) (logical : Path)
    (caller₁ caller₂ : Variables)
    (expanded₁ : ∀ file cause, ((p.render logical caller₁).runFrom s₁).1 ≠ .error (.expand file cause))
    (expanded₂ : ∀ file cause,
      ((p.render logical caller₂).runFrom s₂).1 ≠ .error (.expand file cause)) :
    p.compiledFiles logical caller₁ s₁ = p.compiledFiles logical caller₂ s₂ ∧
      ((∃ page₁ page₂, ((p.render logical caller₁).runFrom s₁).1 = .ok page₁
          ∧ ((p.render logical caller₂).runFrom s₂).1 = .ok page₂)
        ∨ ∃ e, ((p.render logical caller₁).runFrom s₁).1 = .error e
          ∧ ((p.render logical caller₂).runFrom s₂).1 = .error e) := by
  have inStep := render_inStep (noting_convertsAlike functional) logical caller₁ caller₂ (s₁, [])
    (s₂, []) ⟨before₁, before₂, rfl⟩
  rw [noting_render, noting_render] at inStep
  rcases inStep with ⟨file, cause, failed⟩ | ⟨file, cause, failed⟩ | ⟨ends, -, -, files⟩
  · exact absurd failed (expanded₁ file cause)
  · exact absurd failed (expanded₂ file cause)
  · exact ⟨files, ends.ok_or_error⟩

/-- The page of a caller that names another layout, and has a mark put behind every file. -/
theorem compiledFiles_of_naming_caller :
    let p : Pipeline Unit :=
      { plain [("page.txt", "---\nlayout: a\n---\nx"), ("_layouts/a.html", "<[[quire:body]]>"),
          ("_layouts/b.html", "b")] with
        engine := fun text _ scope => .ok (text ++ ((scope.get? "mark").bind Value.asString?).getD "") }
    let page := Path.ofString "page"
    let caller := Variables.ofList [("layout", .str "b"), ("mark", .str "!")]
    p.compilers.IsFunctional () ∧
      ((p.render page .empty).runFrom ()).1 = .ok "<x>" ∧
      ((p.render page caller).runFrom ()).1 = .ok "<x!>!" ∧
      p.compiledFiles page .empty () = p.compiledFiles page caller () := by
  intro p page caller
  have functional : p.compilers.IsFunctional () := fun _ _ _ _ => rfl
  have plainly : ((p.render page .empty).runFrom ()).1 = .ok "<x>" := by decide +kernel
  have marked : ((p.render page caller).runFrom ()).1 = .ok "<x!>!" := by decide +kernel
  refine ⟨functional, plainly, marked, ?_⟩
  exact (compiledFiles_of_callers functional .start .start page .empty caller
    (fun _ _ => by rw [plainly]; simp) (fun _ _ => by rw [marked]; simp)).1

end Pipeline

end Folio
