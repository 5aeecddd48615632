/-!
# Steps that can fail

A step takes a state on and gives a result or a failure. What was done before a failure stays.

Main definitions:
- `Step`
- `Step.runFrom`: the result of a step and the state after it
-/

namespace Folio

/-- What can be computed of a result tells that there is one. -/
theorem exists_ok_of_any {ε α : Type} {result : Except ε α} {P : α → Prop} [DecidablePred P]
    (h : result.toOption.any fun a => P a) : ∃ a, result = .ok a ∧ P a := by
  cases result with
  | error e => simp [Except.toOption] at h
  | ok a => exact ⟨a, rfl, by simpa [Except.toOption] using h⟩

/-- A step on a state of type `σ`, which can fail with an `ε`. -/
abbrev Step (σ ε α : Type) := ExceptT ε (StateM σ) α

namespace Step

variable {σ ε α β : Type}

/-- What a step gives from a state, and the state after it. -/
def runFrom (step : Step σ ε α) (s : σ) : Except ε α × σ := step.run.run s

@[simp] theorem runFrom_pure (a : α) (s : σ) : runFrom (pure a : Step σ ε α) s = (.ok a, s) := rfl

@[simp] theorem runFrom_throw (e : ε) (s : σ) :
    runFrom (throw e : Step σ ε α) s = (.error e, s) := rfl

@[simp] theorem runFrom_lift (x : StateM σ α) (s : σ) :
    runFrom (x : Step σ ε α) s = (.ok (x.run s).1, (x.run s).2) := rfl

@[simp] theorem runFrom_get (s : σ) : runFrom (get : Step σ ε σ) s = (.ok s, s) := rfl

@[simp] theorem runFrom_set (s s' : σ) : runFrom (set s' : Step σ ε PUnit) s = (.ok ⟨⟩, s') := rfl

@[simp] theorem runFrom_modify (f : σ → σ) (s : σ) :
    runFrom (modify f : Step σ ε PUnit) s = (.ok ⟨⟩, f s) := rfl

theorem runFrom_bind_ok {x : Step σ ε α} {a : α} {s s' : σ} (h : runFrom x s = (.ok a, s'))
    (next : α → Step σ ε β) : runFrom (x >>= next) s = runFrom (next a) s' := by
  simp only [runFrom, ExceptT.run_bind, StateT.run_bind] at h ⊢
  rw [h]
  rfl

theorem runFrom_bind_error {x : Step σ ε α} {e : ε} {s s' : σ}
    (h : runFrom x s = (.error e, s')) (next : α → Step σ ε β) :
    runFrom (x >>= next) s = (.error e, s') := by
  simp only [runFrom, ExceptT.run_bind, StateT.run_bind] at h ⊢
  rw [h]
  rfl

@[simp] theorem runFrom_get_bind (next : σ → Step σ ε β) (s : σ) :
    runFrom (get >>= next) s = runFrom (next s) s := rfl

/-- A step in two parts succeeds if both do. -/
theorem runFrom_bind_eq_ok {x : Step σ ε α} {next : α → Step σ ε β} {b : β} {s s' : σ}
    (h : runFrom (x >>= next) s = (.ok b, s')) :
    ∃ a s₁, runFrom x s = (.ok a, s₁) ∧ runFrom (next a) s₁ = (.ok b, s') := by
  cases first : runFrom x s with
  | mk result s₁ =>
    cases result with
    | error e =>
      rw [runFrom_bind_error first] at h
      cases h
    | ok a =>
      rw [runFrom_bind_ok first] at h
      exact ⟨a, s₁, rfl, h⟩

end Step

end Folio
