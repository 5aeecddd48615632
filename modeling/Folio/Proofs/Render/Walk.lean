import Folio.Render
import Mathlib.Logic.Relation

/-!
# The walk from a document outwards

Rendering a document goes from file to file: the document, its layout, the layout of that, and so on.
This module states that walk as a relation, with one rule for each way in which the handling of a
file can end, and without a bound on how far it goes.

Main definitions:
- `Pipeline.Fails`, `Pipeline.Expands`: how the handling of one file ends
- `Walk`, `Pipeline.Turn`: where a walk stands, and its next turn
- `Pipeline.Outcome`: what a walk from a document gives in the end

Main statement: `Pipeline.resume_of_reaches`, by which the recursion of `Pipeline.renderFile` follows
the walk.
-/

namespace Folio

/-! ## Section 1: One file -/

namespace Pipeline

variable {S : Type}

/-- The handling of a file fails before its layout is looked at: it cannot be read, split, compiled
or expanded. The last argument is the state of the compilers afterwards. -/
inductive Fails (p : Pipeline S) (file : Path) (outer : Variables) (s : S) :
    RenderError → S → Prop where
  | unreadable {cause : IoError} (read : p.resources.readText file = .error cause) :
      Fails p file outer s (.io file cause) s
  | unsplit {text : String} {cause : FrontMatterError}
      (read : p.resources.readText file = .ok text)
      (split : FrontMatter.parse Yaml.readMapping? text = .error cause) :
      Fails p file outer s (.frontMatter file cause) s
  | uncompiled {text : String} {document : FrontMatter} {cause : CompileError} {s' : S}
      (read : p.resources.readText file = .ok text)
      (split : FrontMatter.parse Yaml.readMapping? text = .ok document)
      (compile : (p.compile file document.content p.site).run s = (.error cause, s')) :
      Fails p file outer s (.compile file cause) s'
  | unexpanded {text compiled : String} {document : FrontMatter} {cause : Template.Fault} {s' : S}
      (read : p.resources.readText file = .ok text)
      (split : FrontMatter.parse Yaml.readMapping? text = .ok document)
      (compile : (p.compile file document.content p.site).run s = (.ok compiled, s'))
      (expand : p.engine compiled p.site (Scope.merge document.vars outer) = .error cause) :
      Fails p file outer s (.expand file cause) s'

/-- A file is read, split into `document`, compiled, and expanded to `body` over the variables of
its front matter under those of `outer`. -/
inductive Expands (p : Pipeline S) (file : Path) (outer : Variables) (s : S) :
    FrontMatter → String → S → Prop where
  | intro {text compiled body : String} {document : FrontMatter} {s' : S}
      (read : p.resources.readText file = .ok text)
      (split : FrontMatter.parse Yaml.readMapping? text = .ok document)
      (compile : (p.compile file document.content p.site).run s = (.ok compiled, s'))
      (expand : p.engine compiled p.site (Scope.merge document.vars outer) = .ok body) :
      Expands p file outer s document body s'

variable {p : Pipeline S} {file : Path} {outer : Variables} {s s' : S}

theorem fails_or_expands (p : Pipeline S) (file : Path) (outer : Variables) (s : S) :
    (∃ e s', p.Fails file outer s e s')
      ∨ ∃ document body s', p.Expands file outer s document body s' := by
  -- the stages in their order: the first one that fails decides
  cases read : p.resources.readText file with
  | error cause => exact .inl ⟨_, _, .unreadable read⟩
  | ok text =>
    cases split : FrontMatter.parse Yaml.readMapping? text with
    | error cause => exact .inl ⟨_, _, .unsplit read split⟩
    | ok document =>
      obtain ⟨compiled, s', compile⟩ :
          ∃ r s', (p.compile file document.content p.site).run s = (r, s') := ⟨_, _, rfl⟩
      cases compiled with
      | error cause => exact .inl ⟨_, _, .uncompiled read split compile⟩
      | ok compiled =>
        cases expand : p.engine compiled p.site (Scope.merge document.vars outer) with
        | error cause => exact .inl ⟨_, _, .unexpanded read split compile expand⟩
        | ok body => exact .inr ⟨_, _, _, .intro read split compile expand⟩

theorem Fails.expandFile {e : RenderError} (h : p.Fails file outer s e s') :
    (p.expandFile file outer).runFrom s = (.error e, s') := by
  unfold Pipeline.expandFile
  cases h with
  | unreadable read =>
    rw [read]
    rfl
  | unsplit read split =>
    rw [read, Step.runFrom_bind_ok (Rendering.runFrom_ofExcept_ok ..), split]
    rfl
  | uncompiled read split compile =>
    rw [read, Step.runFrom_bind_ok (Rendering.runFrom_ofExcept_ok ..), split,
      Step.runFrom_bind_ok (Rendering.runFrom_ofExcept_ok ..),
      Step.runFrom_bind_ok (Step.runFrom_lift ..), compile]
    rfl
  | unexpanded read split compile expand =>
    rw [read, Step.runFrom_bind_ok (Rendering.runFrom_ofExcept_ok ..), split,
      Step.runFrom_bind_ok (Rendering.runFrom_ofExcept_ok ..),
      Step.runFrom_bind_ok (Step.runFrom_lift ..), compile,
      Step.runFrom_bind_ok (Rendering.runFrom_ofExcept_ok ..), expand]
    rfl

theorem Expands.expandFile {document : FrontMatter} {body : String}
    (h : p.Expands file outer s document body s') :
    (p.expandFile file outer).runFrom s
      = (.ok { layout? := document.layout?, scope := Scope.merge document.vars outer, body }, s')
    := by
  unfold Pipeline.expandFile
  obtain ⟨read, split, compile, expand⟩ := h
  rw [read, Step.runFrom_bind_ok (Rendering.runFrom_ofExcept_ok ..), split,
    Step.runFrom_bind_ok (Rendering.runFrom_ofExcept_ok ..),
    Step.runFrom_bind_ok (Step.runFrom_lift ..), compile,
    Step.runFrom_bind_ok (Rendering.runFrom_ofExcept_ok ..), expand]
  rfl

end Pipeline

/-! ## Section 2: The walk -/

/-- Where a walk stands, just before it handles a file. -/
structure Walk where
  /-- The files that have been handled, the document first. -/
  passed : List Path
  /-- The file that is handled next. -/
  file : Path
  /-- The variables of the scope before it; for the document, those of the caller. -/
  outer : Variables
  /-- The bodies that have been expanded, the document's last. -/
  waiting : List String

namespace Walk

/-- The walk that begins at a document. -/
def start (document : Path) (caller : Variables) : Walk :=
  { passed := [], file := document, outer := caller, waiting := [] }

/-- All files of the walk so far, with the one that is handled next. -/
def files (w : Walk) : List Path := w.passed ++ [w.file]

/-- Put the waiting bodies into a page, the last one that was expanded first. -/
def close (w : Walk) (page : String) : String :=
  w.waiting.foldl (fun page body => Text.replaceAll bodyPlaceholder body page) page

/-- What a turn of a walk leads to. -/
inductive Next where
  | done (result : Except RenderError String)
  | onward (w : Walk)

end Walk

namespace Pipeline

variable {S : Type}

/-- One turn of a walk: a file is handled, and then the layout is looked up that its own front matter
names. -/
inductive Turn (p : Pipeline S) (w : Walk) (s : S) : Walk.Next → S → Prop where
  | failed {e : RenderError} {s' : S} (fails : p.Fails w.file w.outer s e s') :
      Turn p w s (.done (.error e)) s'
  /-- A file that names no layout, or a null, is the last one. -/
  | closed {document : FrontMatter} {body : String} {s' : S}
      (expands : p.Expands w.file w.outer s document body s')
      (unnamed : ∀ v, document.vars.get? FrontMatter.layoutKey = some v → v = .null) :
      Turn p w s (.done (.ok (w.close body))) s'
  | invalid {document : FrontMatter} {body : String} {layout : Value} {s' : S}
      (expands : p.Expands w.file w.outer s document body s')
      (named : document.vars.get? FrontMatter.layoutKey = some layout)
      (notNull : layout ≠ .null) (notText : ∀ name, layout ≠ .str name) :
      Turn p w s (.done (.error (.invalidLayout w.file))) s'
  | missing {document : FrontMatter} {body name : String} {s' : S}
      (expands : p.Expands w.file w.outer s document body s')
      (named : document.vars.get? FrontMatter.layoutKey = some (.str name))
      (unresolved : p.resolve (p.layoutPath name) = none) :
      Turn p w s (.done (.error (.layoutNotFound name w.file))) s'
  /-- A layout that the walk has been to ends it: the files of the walk, and that one again. -/
  | repeated {document : FrontMatter} {body name : String} {layout : Path} {s' : S}
      (expands : p.Expands w.file w.outer s document body s')
      (named : document.vars.get? FrontMatter.layoutKey = some (.str name))
      (resolved : p.resolve (p.layoutPath name) = some layout)
      (seen : ∃ file ∈ w.files, layout.equiv file) :
      Turn p w s (.done (.error (.layoutCycle (w.files ++ [layout])))) s'
  | wrapped {document : FrontMatter} {body name : String} {layout : Path} {s' : S}
      (expands : p.Expands w.file w.outer s document body s')
      (named : document.vars.get? FrontMatter.layoutKey = some (.str name))
      (resolved : p.resolve (p.layoutPath name) = some layout)
      (fresh : ¬ ∃ file ∈ w.files, layout.equiv file) :
      Turn p w s (.onward { passed := w.files, file := layout,
                            outer := (Scope.merge document.vars w.outer).vars,
                            waiting := body :: w.waiting }) s'

/-- A turn that leads on to another file. -/
def Onward (p : Pipeline S) (here there : Walk × S) : Prop :=
  p.Turn here.1 here.2 (.onward there.1) there.2

/-- The walk comes from one place to another, with the states of the compilers there. -/
abbrev Reaches (p : Pipeline S) : Walk × S → Walk × S → Prop := Relation.ReflTransGen p.Onward

/-- What the walk from the document that a logical path names gives in the end. -/
inductive Outcome (p : Pipeline S) (logical : Path) (caller : Variables) (s : S) :
    Except RenderError String × S → Prop where
  | notFound (unresolved : p.resolve logical = none) :
      Outcome p logical caller s (.error (.templateNotFound logical), s)
  | walked {document : Path} {w : Walk} {s₁ s' : S} {result : Except RenderError String}
      (resolved : p.resolve logical = some document)
      (reaches : p.Reaches (Walk.start document caller, s) (w, s₁))
      (last : p.Turn w s₁ (.done result) s') :
      Outcome p logical caller s (result, s')

/-! ## Section 3: The recursion follows the walk -/

variable {p : Pipeline S} {w w' : Walk} {s s' : S}

theorem turn_total (p : Pipeline S) (w : Walk) (s : S) : ∃ next s', p.Turn w s next s' := by
  obtain ⟨e, s', fails⟩ | ⟨document, body, s', expands⟩ := p.fails_or_expands w.file w.outer s
  · exact ⟨_, _, .failed fails⟩
  · -- the cases are those of the layout in the front matter
    cases named : document.vars.get? FrontMatter.layoutKey with
    | none => exact ⟨_, _, .closed expands (by simp [named])⟩
    | some layout =>
      by_cases null : layout = .null
      · exact ⟨_, _, .closed expands (by simp [named, null])⟩
      · by_cases text : ∃ name, layout = .str name
        · obtain ⟨name, rfl⟩ := text
          cases resolved : p.resolve (p.layoutPath name) with
          | none => exact ⟨_, _, .missing expands named resolved⟩
          | some layout =>
            by_cases seen : ∃ file ∈ w.files, layout.equiv file
            · exact ⟨_, _, .repeated expands named resolved seen⟩
            · exact ⟨_, _, .wrapped expands named resolved seen⟩
        · exact ⟨_, _, .invalid expands named null (by simpa using text)⟩

/-- What the recursion gives for the rest of a walk, put together with the bodies that wait. -/
def resume (p : Pipeline S) (depth : Nat) (w : Walk) (s : S) : Except RenderError String × S :=
  let (result, s') := (p.renderFile depth w.file w.files w.outer).runFrom s
  (result.map w.close, s')

theorem resume_eq {depth : Nat} {result : Except RenderError String}
    (h : (p.renderFile depth w.file w.files w.outer).runFrom s = (result, s')) :
    p.resume depth w s = (result.map w.close, s') := by
  rw [resume, h]

theorem resume_zero (p : Pipeline S) (w : Walk) (s : S) :
    p.resume 0 w s = (.error (.layoutCycle w.files), s) := rfl

/-- The recursion ends where the walk ends. -/
theorem resume_of_done {result : Except RenderError String} (turn : p.Turn w s (.done result) s')
    (depth : Nat) : p.resume (depth + 1) w s = (result, s') := by
  unfold resume Pipeline.renderFile
  -- one case for each way a turn can be the last
  cases turn with
  | failed fails =>
    rw [Step.runFrom_bind_error fails.expandFile]
    rfl
  | closed expands unnamed =>
    rw [Step.runFrom_bind_ok expands.expandFile, FrontMatter.layout?_eq_none_iff.mpr unnamed]
    rfl
  | invalid expands named notNull notText =>
    rename_i layout
    -- whatever is no text is refused before anything is looked up
    have file : p.layoutFile w.file layout = .error (.invalidLayout w.file) := by
      cases layout <;> simp_all [layoutFile]
    rw [Step.runFrom_bind_ok expands.expandFile, FrontMatter.layout?_eq_some named notNull]
    dsimp only
    rw [file]
    rfl
  | missing expands named unresolved =>
    rename_i document body name
    have file : p.layoutFile w.file (.str name) = .error (.layoutNotFound name w.file) := by
      simp [layoutFile, unresolved]
    rw [Step.runFrom_bind_ok expands.expandFile,
      FrontMatter.layout?_eq_some named (by simp)]
    dsimp only
    rw [file]
    rfl
  | repeated expands named resolved seen =>
    rename_i document body name layout
    have file : p.layoutFile w.file (.str name) = .ok layout := by simp [layoutFile, resolved]
    -- the chain that the recursion is given is that of the walk
    have any : w.files.any layout.equiv = true := by simpa using seen
    rw [Step.runFrom_bind_ok expands.expandFile,
      FrontMatter.layout?_eq_some named (by simp)]
    dsimp only
    rw [file, Step.runFrom_bind_ok (Rendering.runFrom_ofExcept_ok ..), any]
    rfl

/-- The recursion goes on where the walk goes on, with one file less to go. -/
theorem resume_of_onward (turn : p.Turn w s (.onward w') s') (depth : Nat) :
    p.resume (depth + 1) w s = p.resume depth w' s' := by
  cases turn with
  | wrapped expands named resolved fresh =>
    rename_i document body name layout
    have file : p.layoutFile w.file (.str name) = .ok layout := by simp [layoutFile, resolved]
    have any : w.files.any layout.equiv = false := by simpa using fresh
    -- the rest is what the recursion gives for the layout, with one file less to go
    obtain ⟨result, last, inner⟩ : ∃ result last,
        (p.renderFile depth layout (w.files ++ [layout])
          (Scope.merge document.vars w.outer).vars).runFrom s' = (result, last) := ⟨_, _, rfl⟩
    have outer : (p.renderFile (depth + 1) w.file w.files w.outer).runFrom s
        = (result.map (Text.replaceAll bodyPlaceholder body), last) := by
      rw [renderFile, Step.runFrom_bind_ok expands.expandFile,
        FrontMatter.layout?_eq_some named (by simp)]
      dsimp only
      rw [file, Step.runFrom_bind_ok (Rendering.runFrom_ofExcept_ok ..), any]
      cases result with
      | error e => exact Step.runFrom_bind_error inner _
      | ok wrapped => exact Step.runFrom_bind_ok inner _
    -- the body is put in by the recursion on its way back, and by the walk when it ends
    rw [resume_eq outer, resume_eq (w := { passed := w.files, file := layout, .. }) inner]
    cases result <;> rfl

theorem passed_of_onward (turn : p.Turn w s (.onward w') s') : w'.passed = w.files := by
  cases turn
  rfl

/-- The recursion from a document arrives wherever the walk arrives, with as many files less to go as
have been passed. -/
theorem resume_of_reaches {document : Path} {caller : Variables} {there : Walk × S}
    (reaches : p.Reaches (Walk.start document caller, s) there) (depth : Nat) :
    p.resume (there.1.passed.length + depth) (Walk.start document caller) s
      = p.resume depth there.1 there.2 := by
  -- on the way walked, for any room that is left at its end
  induction reaches generalizing depth with
  | refl => simp [Walk.start]
  | @tail here there _ turn ih =>
    have length : there.1.passed.length = here.1.passed.length + 1 := by
      simp [passed_of_onward turn, Walk.files]
    rw [← resume_of_onward turn, ← ih (depth + 1), length]
    congr 1
    omega

theorem resume_start (p : Pipeline S) (depth : Nat) (document : Path) (caller : Variables) (s : S) :
    p.resume depth (Walk.start document caller) s
      = (p.renderFile depth document [document] caller).runFrom s := by
  unfold resume
  cases h : (p.renderFile depth document [document] caller).runFrom s with
  | mk result s' =>
    have same : (p.renderFile depth (Walk.start document caller).file
        (Walk.start document caller).files (Walk.start document caller).outer).runFrom s
          = (result, s') := h
    -- no body waits at the start
    rw [same]
    cases result <;> rfl

end Pipeline

end Folio
