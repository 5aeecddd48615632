import Folio.Proofs.Render.Dependence
import Folio.Proofs.Resources.Resolution

/-!
# The two ways into rendering

A document is rendered by a logical path, which is probed with every extension, or by the path of
its file, which is taken exactly. Builds and watch sessions resolve first and then render the file,
a single rendering does both in one. This is the same because a path that was resolved stands for
itself: it is spelled by its names alone, whatever the logical path was spelled like, so to clean it
and to take it exactly gives it back.

Main definition: `Pipeline.renderPathWithin`, rendering a file with room for a number of files.

Main statement: `Pipeline.render_eq_renderPath`, both ways give the same.
-/

namespace Folio

namespace Pipeline

variable {S : Type} {p : Pipeline S} {logical file : Path}

/-- Render the file with exactly this path, with room for `depth` files in its chain. -/
def renderPathWithin (p : Pipeline S) (depth : Nat) (path : Path) (caller : Variables) :
    Rendering S String := do
  match p.resources.resolve path [""] with
  | none => throw (.templateNotFound path)
  | some exact => p.renderFile depth exact [exact] caller

theorem renderPath_eq_renderPathWithin (p : Pipeline S) (path : Path) (caller : Variables) :
    p.renderPath path caller = p.renderPathWithin p.depth path caller := rfl

theorem renderWithin_of_unresolved (unresolved : p.resolve logical = none) (depth : Nat)
    (caller : Variables) :
    p.renderWithin depth logical caller = throw (.templateNotFound logical) := by
  rw [renderWithin, unresolved]

/-- To resolve and then to render the file is to render, with any room for the chain. -/
theorem renderWithin_eq_renderPathWithin (unbroken : ∀ e ∈ p.extensions, '/' ∉ e.toList)
    (resolved : p.resolve logical = some file) (depth : Nat) (caller : Variables) :
    p.renderWithin depth logical caller = p.renderPathWithin depth file caller := by
  have exact : p.resources.resolve file [""] = some file :=
    Resources.resolve_exact_of_resolve unbroken resolved
  -- both are the recursion from the same file, whose path is the chain so far
  calc p.renderWithin depth logical caller
      = p.renderFile depth file [file] caller := by rw [renderWithin, resolved]
    _ = p.renderPathWithin depth file caller := by rw [renderPathWithin, exact]

/-- A document is rendered alike by its logical path and by the path of its file: the same page or
the same failure, with any room for its chain and with the room that rendering takes. If compilers
are functions, the one can even be done long after the other. A logical path without a file is
reported as it was given. -/
theorem render_eq_renderPath (p : Pipeline S) (unbroken : ∀ e ∈ p.extensions, '/' ∉ e.toList)
    (logical : Path) (caller : Variables) :
    (∀ file, p.resolve logical = some file →
      (∀ depth, p.renderWithin depth logical caller = p.renderPathWithin depth file caller)
        ∧ p.render logical caller = p.renderPath file caller
        ∧ ∀ s s₁ s₂, p.compilers.IsFunctional s → p.compilers.History s s₁ →
            p.compilers.History s s₂ →
            ((p.render logical caller).runFrom s₁).1 = ((p.renderPath file caller).runFrom s₂).1)
      ∧ (p.resolve logical = none →
          (∀ depth, p.renderWithin depth logical caller = throw (.templateNotFound logical))
            ∧ p.render logical caller = throw (.templateNotFound logical)) := by
  constructor
  · intro file resolved
    have within := fun depth =>
      renderWithin_eq_renderPathWithin unbroken resolved depth caller
    have same : p.render logical caller = p.renderPath file caller := by
      rw [renderPath_eq_renderPathWithin]
      exact within p.depth
    refine ⟨within, same, ?_⟩
    intro s s₁ s₂ functional early late
    -- the file gives the same at both times
    have settled := renderPath_yields functional file caller
    rw [same, (settled s₁ early).1, (settled s₂ late).1]
  · intro unresolved
    have within := fun depth => renderWithin_of_unresolved unresolved depth caller
    exact ⟨within, within p.depth⟩

/-- A layout that names itself, rendered as a document and spelled with slashes and a dot in front:
both ways report the cycle over the same two files. -/
theorem render_eq_renderPath_of_cycle :
    let p := plain [("_layouts/a.txt", "---\nlayout: a\n---\n")]
    let logical := Path.ofString "//./_layouts//a"
    let file := Path.ofString "_layouts/a.txt"
    (∀ e ∈ p.extensions, '/' ∉ e.toList) ∧ p.compilers.IsFunctional ()
      ∧ p.resolve logical = some file
      ∧ ((p.render logical .empty).runFrom ()).1 = ((p.renderPath file .empty).runFrom ()).1
      ∧ ((p.renderPath file .empty).runFrom ()).1 = .error (.layoutCycle [file, file])
      ∧ p.render (.ofString "/b") .empty = throw (.templateNotFound (.ofString "/b")) := by
  let p := plain [("_layouts/a.txt", "---\nlayout: a\n---\n")]
  have unbroken : ∀ e ∈ p.extensions, '/' ∉ e.toList := by decide
  have functional : p.compilers.IsFunctional () := fun _ _ _ _ => rfl
  have resolved : p.resolve (.ofString "//./_layouts//a") = some (.ofString "_layouts/a.txt") := by
    decide +kernel
  have unresolved : p.resolve (.ofString "/b") = none := by decide +kernel
  have found := (render_eq_renderPath p unbroken _ .empty).1 _ resolved
  have missing := (render_eq_renderPath p unbroken _ .empty).2 unresolved
  exact ⟨unbroken, functional, resolved, found.2.2 () () () functional .start .start,
    by decide +kernel, missing.2⟩

/-- An extension with a separator can lead to a path that does not stand for itself. -/
example :
    let p := { plain [("a/../b", "x")] with extensions := ["/../b"] }
    p.resolve (.ofString "a") = some (.ofString "a/../b")
      ∧ ((p.renderPath (.ofString "a/../b") .empty).runFrom ()).1
        = .error (.templateNotFound (.ofString "a/../b")) := by
  decide +kernel

end Pipeline

end Folio
