import Folio.Build.Document
import Folio.Proofs.Render.Dependence

/-!
# What rendering does to compilers

Nothing but compilers touches the state of compilers. So whatever all conversions keep, a rendering
keeps as well, whether it succeeds or fails, and so does work on files that renders.

Main definitions:
- `Step.Keeps`: what a step keeps
- `Pipeline.CompilersKeep`: what all conversions keep

Main statements:
- `Pipeline.keeps_renderPath`: what a rendering keeps
- `keeps_renderTo`: what rendering to a file keeps
-/

namespace Folio

/-! ## Section 1: What a step keeps -/

namespace Step

variable {σ ε α β : Type} {P : σ → Prop}

/-- If `P` holds before a step, it holds after it, whether the step succeeds or fails. -/
def Keeps (P : σ → Prop) (x : Step σ ε α) : Prop := ∀ s, P s → P (x.runFrom s).2

theorem keeps_pure (a : α) : Keeps P (pure a : Step σ ε α) := fun _ holds => holds

theorem keeps_throw (e : ε) : Keeps P (throw e : Step σ ε α) := fun _ holds => holds

theorem Keeps.bind {x : Step σ ε α} {next : α → Step σ ε β} (first : Keeps P x)
    (second : ∀ a, Keeps P (next a)) : Keeps P (x >>= next) := by
  intro s holds
  have after := first s holds
  cases run : x.runFrom s with
  | mk result s' =>
    rw [run] at after
    cases result with
    | error e => rwa [runFrom_bind_error run]
    | ok a =>
      rw [runFrom_bind_ok run]
      exact second a s' after

end Step

/-! ## Section 2: Renderings -/

namespace Pipeline

open Step (Keeps keeps_pure keeps_throw)

variable {S : Type} {p : Pipeline S} {P : S → Prop}

/-- If `P` holds before a conversion, it holds after it. -/
def CompilersKeep (p : Pipeline S) (P : S → Prop) : Prop :=
  ∀ file text s, P s → P ((p.compilers file text).run s).2

theorem keeps_ofExcept {ε α : Type} (cause : ε → RenderError) (result : Except ε α) :
    Keeps P (Rendering.ofExcept cause result : Rendering S α) := by
  cases result with
  | ok a => exact keeps_pure a
  | error e => exact keeps_throw (cause e)

theorem keeps_expandFile (keep : p.CompilersKeep P) (file : Path) (caller : Variables) :
    Keeps P (p.expandFile file caller) := by
  unfold expandFile
  refine (keeps_ofExcept _ _).bind fun text => (keeps_ofExcept _ _).bind fun document => ?_
  have conversion : Keeps P (p.compile file document.content p.site : Rendering S _) :=
    fun s holds => keep file document.content s holds
  exact conversion.bind fun _ => (keeps_ofExcept _ _).bind fun _ =>
    (keeps_ofExcept _ _).bind fun _ => keeps_pure _

theorem keeps_renderFile (keep : p.CompilersKeep P) (depth : Nat) (file : Path) (chain : List Path)
    (caller : Variables) : Keeps P (p.renderFile depth file chain caller) := by
  -- on the room, for any file and chain
  induction depth generalizing file chain caller with
  | zero => exact keeps_throw _
  | succ depth ih =>
    unfold renderFile
    refine (keeps_expandFile keep file caller).bind fun expanded => ?_
    cases expanded.layout? with
    | none => exact keeps_pure _
    | some layout =>
      refine (keeps_ofExcept _ _).bind fun next => ?_
      split
      · exact keeps_throw _
      · exact (ih _ _ _).bind fun _ => keeps_pure _

theorem keeps_renderPath (keep : p.CompilersKeep P) (file : Path) (caller : Variables) :
    Keeps P (p.renderPath file caller) := by
  unfold renderPath
  cases p.resources.resolve file [""] with
  | none => exact keeps_throw _
  | some exact => exact keeps_renderFile keep _ _ _ _

end Pipeline

/-! ## Section 3: Work on files -/

open Step (Keeps keeps_pure keeps_throw)

variable {S ε α : Type} {P : S → Prop}

theorem Work.keeps_onFiles (refusal : IoError → ε)
    (change : FileSystem → Except IoError FileSystem) :
    Keeps (fun w => P w.compilers) (onFiles refusal change : Work S ε Unit) := by
  intro w holds
  unfold onFiles
  rw [Step.runFrom_get_bind]
  cases change w.fs <;> exact holds

theorem Work.keeps_render {refusal : RenderError → ε} {pipelineAt : FileSystem → Pipeline S}
    {rendering : Pipeline S → Rendering S α} (keep : ∀ fs, Keeps P (rendering (pipelineAt fs))) :
    Keeps (fun w => P w.compilers) (render refusal pipelineAt rendering : Work S ε α) := by
  intro w holds
  have after := keep w.fs w.compilers holds
  unfold render
  rw [Step.runFrom_get_bind]
  cases run : (rendering (pipelineAt w.fs)).run.run w.compilers with
  | mk result compilers =>
    rw [Step.runFrom, run] at after
    cases result <;> exact after

/-- Rendering a document to a file keeps what all conversions keep. -/
theorem keeps_renderTo {pipelineAt : FileSystem → Pipeline S}
    (keep : ∀ fs, (pipelineAt fs).CompilersKeep P) (source target : Path) (vars : Variables) :
    Keeps (fun w => P w.compilers) (renderTo pipelineAt source target vars) := by
  unfold renderTo
  refine (Work.keeps_render fun fs => (pipelineAt fs).keeps_renderPath (keep fs) source vars).bind
    fun page => ?_
  -- directories and files are made without compilers
  have writing := Work.keeps_onFiles (P := P) (DocumentError.notWritten target)
    fun fs => fs.writeText target page
  cases target.parent? with
  | none => exact writing
  | some parent => exact (Work.keeps_onFiles _ _).bind fun _ => writing

end Folio
