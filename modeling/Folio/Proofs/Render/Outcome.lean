import Folio.Proofs.Render.Trail

/-!
# What rendering gives

Rendering a document gives what the walk from it gives. The walk knows no bound; the recursion has
room for a number of files. As soon as the room suffices, the two agree, whatever the resources are,
and for finite resources the room that `Pipeline.render` takes always suffices.

Main statement: `Pipeline.outcome_iff_render`.
-/

namespace Folio

namespace Pipeline

variable {S : Type} {p : Pipeline S} {logical document : Path} {caller : Variables} {s : S}

/-! ## Section 1: Room enough -/

theorem renderWithin_of_resolve (resolved : p.resolve logical = some document) (depth : Nat)
    (caller : Variables) (s : S) :
    (p.renderWithin depth logical caller).runFrom s
      = p.resume depth (Walk.start document caller) s := by
  rw [resume_start, renderWithin, resolved]

/-- A walk that ends is followed to its end if there is room for all its files. -/
theorem renderFile_of_done {w : Walk} {s₁ s' : S} {result : Except RenderError String}
    (reaches : p.Reaches (Walk.start document caller, s) (w, s₁))
    (last : p.Turn w s₁ (.done result) s') {depth : Nat} (room : w.passed.length < depth) :
    (p.renderFile depth document [document] caller).runFrom s = (result, s') := by
  -- the recursion arrives where the walk does, with some room left for the last turn
  obtain ⟨more, rfl⟩ := Nat.exists_eq_add_of_lt room
  rw [← resume_start, Nat.add_assoc, resume_of_reaches reaches, resume_of_done last]

theorem renderWithin_of_done {w : Walk} {s₁ s' : S} {result : Except RenderError String}
    (resolved : p.resolve logical = some document)
    (reaches : p.Reaches (Walk.start document caller, s) (w, s₁))
    (last : p.Turn w s₁ (.done result) s') {depth : Nat} (room : w.passed.length < depth) :
    (p.renderWithin depth logical caller).runFrom s = (result, s') := by
  rw [renderWithin_of_resolve resolved, resume_start, renderFile_of_done reaches last room]

/-- A walk that goes on past the room is cut off, at a chain of just that length. -/
theorem renderWithin_of_reaches {w : Walk} {s₁ : S} (resolved : p.resolve logical = some document)
    (reaches : p.Reaches (Walk.start document caller, s) (w, s₁)) :
    (p.renderWithin w.passed.length logical caller).runFrom s
      = (.error (.layoutCycle w.files), s₁) := by
  rw [renderWithin_of_resolve resolved, ← resume_zero p w s₁,
    ← resume_of_reaches reaches 0, Nat.add_zero]

theorem Outcome.exists_renderWithin {r : Except RenderError String × S}
    (outcome : p.Outcome logical caller s r) :
    ∃ depth, ∀ n, depth ≤ n → (p.renderWithin n logical caller).runFrom s = r := by
  cases outcome with
  | notFound unresolved =>
    refine ⟨0, fun n _ => ?_⟩
    rw [renderWithin, unresolved]
    rfl
  | @walked _ w _ _ _ resolved reaches last =>
    exact ⟨w.passed.length + 1, fun n room => renderWithin_of_done resolved reaches last room⟩

/-! ## Section 2: Walks without end -/

/-- A walk ends, or goes on past any number of files. -/
theorem done_or_reaches (p : Pipeline S) (document : Path) (caller : Variables) (s : S) (n : Nat) :
    (∃ w s₁ result s', p.Reaches (Walk.start document caller, s) (w, s₁)
        ∧ p.Turn w s₁ (.done result) s')
      ∨ ∃ w s₁, p.Reaches (Walk.start document caller, s) (w, s₁) ∧ w.passed.length = n := by
  induction n with
  | zero => exact .inr ⟨_, s, .refl, rfl⟩
  | succ n ih =>
    obtain ended | ⟨w, s₁, reaches, length⟩ := ih
    · exact .inl ended
    · -- one more turn ends the walk, or takes it one file further
      obtain ⟨next, s', turn⟩ := p.turn_total w s₁
      cases next with
      | done result => exact .inl ⟨w, s₁, result, s', reaches, turn⟩
      | onward w' =>
        have onward : p.Onward (w, s₁) (w', s') := turn
        refine .inr ⟨w', s', reaches.tail onward, ?_⟩
        simp [passed_of_onward turn, Walk.files, length]

/-- What does not depend on the room any more is the outcome of the walk. -/
theorem outcome_of_renderWithin {r : Except RenderError String × S} {depth : Nat}
    (h : ∀ n, depth ≤ n → (p.renderWithin n logical caller).runFrom s = r) :
    p.Outcome logical caller s r := by
  cases resolved : p.resolve logical with
  | none =>
    have result := h depth le_rfl
    rw [renderWithin, resolved] at result
    exact result ▸ .notFound resolved
  | some document =>
    by_cases ended : ∃ w s₁ result s', p.Reaches (Walk.start document caller, s) (w, s₁)
        ∧ p.Turn w s₁ (.done result) s'
    · obtain ⟨w, s₁, result, s', reaches, last⟩ := ended
      have outcome : p.Outcome logical caller s (result, s') := .walked resolved reaches last
      obtain ⟨room, agrees⟩ := outcome.exists_renderWithin
      -- with room enough for both, the recursion gives what the walk does
      have same := h (max depth room) (le_max_left ..)
      rw [agrees _ (le_max_right ..)] at same
      exact same ▸ outcome
    · -- the chain at which a walk without end is cut off grows with the room
      have cutOff (n : Nat) : ∃ (w : Walk) (s₁ : S), w.passed.length = n
          ∧ (p.renderWithin n logical caller).runFrom s = (.error (.layoutCycle w.files), s₁) := by
        obtain end' | ⟨w, s₁, reaches, length⟩ := p.done_or_reaches document caller s n
        · exact absurd end' ended
        · exact ⟨w, s₁, length, length ▸ renderWithin_of_reaches resolved reaches⟩
      obtain ⟨w, s₁, length, result⟩ := cutOff depth
      obtain ⟨w', s₁', length', result'⟩ := cutOff (depth + 1)
      rw [h depth le_rfl] at result
      rw [h (depth + 1) (Nat.le_succ _), result] at result'
      have files : w.files = w'.files := by simpa using congrArg Prod.fst result'
      have lengths := congrArg List.length files
      simp only [Walk.files, List.length_append, List.length_singleton, length, length'] at lengths
      omega

/-! ## Section 3: Finite resources -/

/-- The walk over finite resources comes to an end, and the recursion has room for it. -/
theorem exists_done (finite : p.resources.IsFinite) (document : Path) (caller : Variables) (s : S) :
    ∃ w s₁ result s', p.Reaches (Walk.start document caller, s) (w, s₁)
      ∧ p.Turn w s₁ (.done result) s' ∧ w.passed.length < p.depth := by
  -- a walk goes along a trail, and a trail over finitely many texts is short
  have short {w : Walk} {s₁ : S} (reaches : p.Reaches (Walk.start document caller, s) (w, s₁)) :
      w.passed.length < p.depth := by
    have length := (isTrail_of_reaches reaches).1.length_le finite
    simp only [Walk.files, List.length_append, List.length_singleton] at length
    unfold depth
    omega
  obtain ⟨w, s₁, result, s', reaches, last⟩ | ⟨w, s₁, reaches, length⟩ :=
    p.done_or_reaches document caller s p.depth
  · exact ⟨w, s₁, result, s', reaches, last, short reaches⟩
  · exact absurd (short reaches) (by omega)

theorem outcome_render (finite : p.resources.IsFinite) (logical : Path) (caller : Variables)
    (s : S) : p.Outcome logical caller s ((p.render logical caller).runFrom s) := by
  cases resolved : p.resolve logical with
  | none =>
    rw [render, renderWithin, resolved]
    exact .notFound resolved
  | some document =>
    obtain ⟨w, s₁, result, s', reaches, last, room⟩ := exists_done finite document caller s
    rw [render, renderWithin_of_done resolved reaches last room]
    exact .walked resolved reaches last

/-- More room than rendering takes makes no difference. -/
theorem renderFile_of_room (finite : p.resources.IsFinite) {depth : Nat} (room : p.depth ≤ depth)
    (document : Path) (caller : Variables) (s : S) :
    (p.renderFile depth document [document] caller).runFrom s
      = (p.renderFile p.depth document [document] caller).runFrom s := by
  obtain ⟨w, s₁, result, s', reaches, last, short⟩ := exists_done finite document caller s
  rw [renderFile_of_done reaches last short,
    renderFile_of_done reaches last (Nat.lt_of_lt_of_le short room)]

theorem renderWithin_eq_render (finite : p.resources.IsFinite) {depth : Nat} (room : p.depth ≤ depth)
    (logical : Path) (caller : Variables) (s : S) :
    (p.renderWithin depth logical caller).runFrom s = (p.render logical caller).runFrom s := by
  cases resolved : p.resolve logical with
  | none => rw [render, renderWithin, renderWithin, resolved]
  | some document =>
    rw [render, renderWithin_of_resolve resolved, renderWithin_of_resolve resolved, resume_start,
      resume_start, renderFile_of_room finite room]

/-- An outcome is the only one. -/
theorem Outcome.eq {r r' : Except RenderError String × S} (h : p.Outcome logical caller s r)
    (h' : p.Outcome logical caller s r') : r = r' := by
  obtain ⟨depth, agrees⟩ := h.exists_renderWithin
  obtain ⟨depth', agrees'⟩ := h'.exists_renderWithin
  rw [← agrees _ (le_max_left depth depth'), agrees' _ (le_max_right depth depth')]

/-- Rendering gives what the walk from the document gives in the end: over any resources, as soon as
the recursion has room enough for its chain, and over finite ones with the room that it takes. -/
theorem outcome_iff_render (p : Pipeline S) (logical : Path) (caller : Variables) (s : S)
    (r : Except RenderError String × S) :
    (p.Outcome logical caller s r
        ↔ ∃ depth, ∀ n, depth ≤ n → (p.renderWithin n logical caller).runFrom s = r)
      ∧ (p.resources.IsFinite →
          (p.Outcome logical caller s r ↔ (p.render logical caller).runFrom s = r)) := by
  refine ⟨⟨Outcome.exists_renderWithin, ?_⟩, fun finite => ⟨?_, ?_⟩⟩
  · rintro ⟨depth, h⟩
    exact outcome_of_renderWithin h
  · intro outcome
    exact (outcome_render finite logical caller s).eq outcome
  · rintro rfl
    exact outcome_render finite logical caller s

/-- The pipeline over files in memory that leaves all texts as they are. -/
def plain (files : List (String × String)) : Pipeline Unit where
  resources := .memory (files.map fun (path, text) => (.ofString path, text))
  compile _ text _ := pure (.ok text)
  engine text _ _ := .ok text
  extensions := defaultExtensions
  layouts := .ofString "_layouts"
  site := {}

theorem plain_isFinite (files : List (String × String)) : (plain files).resources.IsFinite :=
  Resources.memory_isFinite _

/-- A page in a layout. -/
theorem outcome_page_in_layout :
    let p := plain [("page.txt", "---\nlayout: a\n---\nx"), ("_layouts/a.html", "<[[quire:body]]>")]
    p.resources.IsFinite ∧ p.Outcome (.ofString "page") .empty () (.ok "<x>", ()) :=
  ⟨plain_isFinite _,
    ((outcome_iff_render _ _ _ _ _).2 (plain_isFinite _)).mpr (by decide +kernel)⟩

end Pipeline

end Folio
