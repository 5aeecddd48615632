import Folio.Proofs.Render.Outcome

/-!
# What rendering depends on

A rendering reads the document and the layouts around it, and lets compilers convert them. If the
compilers are functions of what they convert, it does not matter what they have converted before;
and if two pipelines find the same layouts and partials, a document that is the same in both is
rendered alike.

Main definitions:
- `Compilers.History`, `Compilers.IsFunctional`: compilers on which the past leaves no mark
- `Pipeline.Agrees`: two pipelines that find the same layouts and partials

Main statements:
- `Pipeline.renderPath_yields`: a rendering gives the same at any time
- `Pipeline.renderPath_congr`: pipelines that agree render alike
-/

namespace Folio

variable {S α β : Type}

/-! ## Section 1: Compilers as functions -/

/-- The conversion of files, for a fixed site. -/
abbrev Compilers (S : Type) := Path → String → StateM S (Except CompileError String)

namespace Compilers

/-- The states that conversions lead to from `s`. -/
inductive History (compile : Compilers S) (s : S) : S → Prop where
  | start : History compile s s
  | next {s₁ : S} (before : History compile s s₁) (file : Path) (text : String) :
      History compile s ((compile file text).run s₁).2

/-- From `s` on, what a file is converted to depends on its path and its text alone. -/
def IsFunctional (compile : Compilers S) (s : S) : Prop :=
  ∀ s₁, History compile s s₁ → ∀ file text,
    ((compile file text).run s₁).1 = ((compile file text).run s).1

theorem History.trans {compile : Compilers S} {s s₁ s₂ : S} (h : History compile s s₁)
    (h' : History compile s₁ s₂) : History compile s s₂ := by
  induction h' with
  | start => exact h
  | next _ file text ih => exact ih.next file text

/-- Compilers stay functions. -/
theorem IsFunctional.later {compile : Compilers S} {s s₁ : S} (functional : compile.IsFunctional s)
    (history : History compile s s₁) : compile.IsFunctional s₁ := by
  intro s₂ later file text
  rw [functional s₂ (history.trans later), functional s₁ history]

/-- What a rendering gives, whenever it is done. -/
def Yields (compile : Compilers S) (s : S) (x : Rendering S α) (r : Except RenderError α) : Prop :=
  ∀ s₁, History compile s s₁ → (x.runFrom s₁).1 = r ∧ History compile s (x.runFrom s₁).2

variable {compile : Compilers S} {s : S} {x : Rendering S α} {next : α → Rendering S β}

theorem yields_ofExcept {ε : Type} (cause : ε → RenderError) (result : Except ε α) :
    compile.Yields s (Rendering.ofExcept cause result) (result.mapError cause) := by
  intro s₁ history
  cases result <;> exact ⟨rfl, history⟩

theorem yields_pure (a : α) : compile.Yields s (pure a) (.ok a) := fun _ history => ⟨rfl, history⟩

theorem yields_throw (e : RenderError) : compile.Yields s (throw e : Rendering S α) (.error e) :=
  fun _ history => ⟨rfl, history⟩

theorem Yields.bind_error {e : RenderError} (h : compile.Yields s x (.error e)) :
    compile.Yields s (x >>= next) (.error e) := by
  intro s₁ history
  obtain ⟨result, later⟩ := h s₁ history
  have run : x.runFrom s₁ = (.error e, (x.runFrom s₁).2) := Prod.ext result rfl
  rw [Step.runFrom_bind_error run]
  exact ⟨rfl, later⟩

theorem Yields.bind_ok {a : α} {r : Except RenderError β} (h : compile.Yields s x (.ok a))
    (more : compile.Yields s (next a) r) : compile.Yields s (x >>= next) r := by
  intro s₁ history
  obtain ⟨result, later⟩ := h s₁ history
  have run : x.runFrom s₁ = (.ok a, (x.runFrom s₁).2) := Prod.ext result rfl
  rw [Step.runFrom_bind_ok run]
  exact more _ later

/-- A rendering in two parts is settled if both are. -/
theorem exists_yields_bind (first : ∃ r, compile.Yields s x r)
    (second : ∀ a, ∃ r, compile.Yields s (next a) r) : ∃ r, compile.Yields s (x >>= next) r := by
  obtain ⟨result, h⟩ := first
  cases result with
  | error e => exact ⟨_, h.bind_error⟩
  | ok a =>
    obtain ⟨r, more⟩ := second a
    exact ⟨r, h.bind_ok more⟩

end Compilers

namespace Pipeline

/-- The compilers of a pipeline, for its site. -/
def compilers (p : Pipeline S) : Compilers S := fun file text => p.compile file text p.site

variable {p p' : Pipeline S} {s : S}

theorem yields_compile (functional : p.compilers.IsFunctional s) (file : Path) (text : String) :
    p.compilers.Yields s (p.compile file text p.site : StateM S _)
      (.ok ((p.compilers file text).run s).1) := by
  intro s₁ history
  rw [Step.runFrom_lift]
  exact ⟨congrArg Except.ok (functional s₁ history file text), history.next file text⟩

theorem exists_yields_expandFile (functional : p.compilers.IsFunctional s) (file : Path)
    (caller : Variables) : ∃ r, p.compilers.Yields s (p.expandFile file caller) r := by
  -- every stage is settled by itself; the compiler is the only one with a state
  unfold expandFile
  refine Compilers.exists_yields_bind ⟨_, Compilers.yields_ofExcept _ _⟩ fun text => ?_
  refine Compilers.exists_yields_bind ⟨_, Compilers.yields_ofExcept _ _⟩ fun document => ?_
  refine Compilers.exists_yields_bind ⟨_, yields_compile functional _ _⟩ fun compiled => ?_
  refine Compilers.exists_yields_bind ⟨_, Compilers.yields_ofExcept _ _⟩ fun content => ?_
  refine Compilers.exists_yields_bind ⟨_, Compilers.yields_ofExcept _ _⟩ fun body => ?_
  exact ⟨_, Compilers.yields_pure _⟩

theorem exists_yields_renderFile (functional : p.compilers.IsFunctional s) (depth : Nat)
    (file : Path) (chain : List Path) (caller : Variables) :
    ∃ r, p.compilers.Yields s (p.renderFile depth file chain caller) r := by
  -- on the room, for any file: what comes after a layout has less of it
  induction depth generalizing file chain caller with
  | zero => exact ⟨_, Compilers.yields_throw _⟩
  | succ depth ih =>
    unfold renderFile
    refine Compilers.exists_yields_bind (exists_yields_expandFile functional _ _) fun expanded => ?_
    cases expanded.layout? with
    | none => exact ⟨_, Compilers.yields_pure _⟩
    | some layout =>
      refine Compilers.exists_yields_bind ⟨_, Compilers.yields_ofExcept _ _⟩ fun file => ?_
      split
      · exact ⟨_, Compilers.yields_throw _⟩
      · exact Compilers.exists_yields_bind (ih _ _ _) fun wrapped => ⟨_, Compilers.yields_pure _⟩

/-- If compilers are functions, a file is rendered to the same at any time. -/
theorem renderPath_yields (functional : p.compilers.IsFunctional s) (path : Path)
    (caller : Variables) :
    p.compilers.Yields s (p.renderPath path caller) ((p.renderPath path caller).runFrom s).1 := by
  -- what the rendering gives is settled first; then it is what it gives now
  have settled : ∃ r, p.compilers.Yields s (p.renderPath path caller) r := by
    unfold renderPath
    split
    · exact ⟨_, Compilers.yields_throw _⟩
    · exact exists_yields_renderFile functional _ _ _ _
  obtain ⟨r, yields⟩ := settled
  rw [(yields s .start).1]
  exact yields

/-! ## Section 2: Pipelines that agree -/

/-- Two pipelines that differ in their resources alone, and find the same layouts and partials in
them. -/
structure Agrees (p p' : Pipeline S) : Prop where
  compile : p.compile = p'.compile
  site : p.site = p'.site
  engine : p.engine = p'.engine
  layout : ∀ name, p.resolve (p.layoutPath name) = p'.resolve (p'.layoutPath name)
  text : ∀ name file, p.resolve (p.layoutPath name) = some file →
    p.resources.readText file = p'.resources.readText file

theorem Agrees.expandFile (agrees : p.Agrees p') {file : Path} (caller : Variables)
    (text : p.resources.readText file = p'.resources.readText file) :
    p.expandFile file caller = p'.expandFile file caller := by
  unfold Pipeline.expandFile
  rw [text, agrees.compile, agrees.site, agrees.engine]

theorem Agrees.layoutFile (agrees : p.Agrees p') (file : Path) (layout : Value) :
    p.layoutFile file layout = p'.layoutFile file layout := by
  cases layout with
  | str name => simp only [Pipeline.layoutFile, agrees.layout name]
  | _ => rfl

theorem text_of_layoutFile (agrees : p.Agrees p') {file layoutFile : Path} {layout : Value}
    (h : p.layoutFile file layout = .ok layoutFile) :
    p.resources.readText layoutFile = p'.resources.readText layoutFile := by
  obtain ⟨name, -, resolved⟩ := layoutFile_eq_ok h
  exact agrees.text name _ resolved

theorem Agrees.renderFile (agrees : p.Agrees p') (depth : Nat) {file : Path} (chain : List Path)
    (caller : Variables) (text : p.resources.readText file = p'.resources.readText file) :
    p.renderFile depth file chain caller = p'.renderFile depth file chain caller := by
  -- on the room: the layout that is found has the same text in both
  induction depth generalizing file chain caller with
  | zero => rfl
  | succ depth ih =>
    unfold Pipeline.renderFile
    rw [agrees.expandFile caller text]
    refine bind_congr fun expanded => ?_
    cases expanded.layout? with
    | none => rfl
    | some layout =>
      dsimp only
      rw [← agrees.layoutFile file layout]
      cases found : p.layoutFile file layout with
      | error e => simp only [Rendering.ofExcept_error_bind]
      | ok layoutFile =>
        have rest := ih (chain ++ [layoutFile]) expanded.scope.vars (text_of_layoutFile agrees found)
        simp only [Rendering.ofExcept_ok, pure_bind, rest]

/-- Pipelines that agree render a file alike that is the same in both. -/
theorem renderPath_congr (agrees : p.Agrees p') (finite : p.resources.IsFinite)
    (finite' : p'.resources.IsFinite) {path : Path} (caller : Variables)
    (exact : p.resources.resolve path [""] = p'.resources.resolve path [""])
    (text : ∀ file, p.resources.resolve path [""] = some file →
      p.resources.readText file = p'.resources.readText file) (s : S) :
    (p.renderPath path caller).runFrom s = (p'.renderPath path caller).runFrom s := by
  unfold renderPath
  rw [← exact]
  cases resolved : p.resources.resolve path [""] with
  | none => rfl
  | some file =>
    -- both have room for the longer of the two chains
    have room := renderFile_of_room finite (le_max_left p.depth p'.depth) file caller s
    have room' := renderFile_of_room finite' (le_max_right p.depth p'.depth) file caller s
    dsimp only
    rw [← room, ← room', agrees.renderFile _ _ _ (text file resolved)]

/-- Pipelines that agree render a logical path alike that names the same file in both. -/
theorem render_congr (agrees : p.Agrees p') (finite : p.resources.IsFinite)
    (finite' : p'.resources.IsFinite) {logical : Path} (caller : Variables)
    (resolve : p.resolve logical = p'.resolve logical)
    (text : ∀ file, p.resolve logical = some file →
      p.resources.readText file = p'.resources.readText file) (s : S) :
    (p.render logical caller).runFrom s = (p'.render logical caller).runFrom s := by
  -- with the room of both, it is the same recursion from the same file
  rw [← renderWithin_eq_render finite (le_max_left p.depth p'.depth),
    ← renderWithin_eq_render finite' (le_max_right p.depth p'.depth), renderWithin, renderWithin,
    ← resolve]
  cases resolved : p.resolve logical with
  | none => rfl
  | some file =>
    dsimp only
    rw [agrees.renderFile _ _ _ (text file resolved)]

end Pipeline

end Folio
