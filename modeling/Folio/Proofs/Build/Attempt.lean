import Folio.Proofs.Build.Document
import Folio.Proofs.FileSystem.Writable

/-!
# Rendering documents whether or not others fail

Rendering a document to a file ends in one of three ways: nothing is drawn, or the page is written,
or the file is refused. Whatever comes of it, no file changes but a target that admits its page, and
no directory is new but those on the way to a target. So as long as no target is on the way to
another, what is admitted stays admitted and what is refused stays refused, and paths that meet no
target lead to the same files as before.

Main definitions:
- `Attempt`: how rendering a document to a file ends
- `FileSystem.Gains`: files after some of the targets have been tried

Main statements:
- `attempt_renderTo`: every rendering is an attempt
- `FileSystem.Gains.attempt`, `FileSystem.Gains.admits_iff`, `FileSystem.Gains.alike`: what attempts
  preserve
-/

namespace Folio

/-! ## Section 1: One attempt -/

/-- How rendering a document to a file ends, by what has been drawn. -/
inductive Attempt (drawn : Except RenderError String) (target : Path) (fs : FileSystem) :
    Except DocumentError Unit → FileSystem → Prop
  | undrawn {e : RenderError} (failed : drawn = .error e) :
      Attempt drawn target fs (.error (.render e)) fs
  | written {page : String} {fs' : FileSystem} (isPage : drawn = .ok page)
      (admits : fs.Admits target) (writes : fs.Writes target.place page.toByteArray fs')
      (makesWay : fs.MakesWay fs' target) : Attempt drawn target fs (.ok ()) fs'
  | refused {page : String} {e : DocumentError} {fs' : FileSystem} (isPage : drawn = .ok page)
      (refuses : ¬ fs.Admits target) (grows : fs.Grows fs') (makesWay : fs.MakesWay fs' target) :
      Attempt drawn target fs (.error e) fs'

section

variable {S : Type} {pipelineAt : FileSystem → Pipeline S} {source target : Path} {vars : Variables}
  {w : Workspace S}

theorem runFrom_render {α : Type} (refusal : RenderError → DocumentError)
    (pipelineAt : FileSystem → Pipeline S) (rendering : Pipeline S → Rendering S α)
    (w : Workspace S) :
    (Work.render refusal pipelineAt rendering).runFrom w
      = (((rendering (pipelineAt w.fs)).runFrom w.compilers).1.mapError refusal,
          { w with compilers := ((rendering (pipelineAt w.fs)).runFrom w.compilers).2 }) := by
  unfold Work.render
  rw [Step.runFrom_get_bind]
  cases rendered : (rendering (pipelineAt w.fs)).runFrom w.compilers with
  | mk result compilers =>
    have run : (rendering (pipelineAt w.fs)).run.run w.compilers = (result, compilers) := rendered
    rw [run]
    cases result <;> rfl

/-- Rendering a document to a file is an attempt, with what is drawn on the files as they are. -/
theorem attempt_renderTo (tree : w.fs.IsTree) {drawn : Except RenderError String × S}
    (draws : ((pipelineAt w.fs).renderPath source vars).runFrom w.compilers = drawn)
    (ends : ∀ page, drawn.1 = .ok page →
      target.isAbsolute ∧ ∃ front last, target.steps = front ++ [last]) :
    ∃ result fs', (renderTo pipelineAt source target vars).runFrom w
        = (result, { w with fs := fs', compilers := drawn.2 })
      ∧ Attempt drawn.1 target w.fs result fs' := by
  obtain ⟨result, compilers⟩ := drawn
  have first := runFrom_render DocumentError.render pipelineAt (fun p => p.renderPath source vars) w
  rw [draws] at first
  unfold renderTo
  cases result with
  | error e =>
    rw [Step.runFrom_bind_error first]
    exact ⟨_, _, rfl, .undrawn rfl⟩
  | ok page =>
    rw [Step.runFrom_bind_ok first]
    obtain ⟨absolute, front, last, ending⟩ := ends page rfl
    obtain ⟨top, -⟩ | ⟨parent, -, above, -, -⟩ := Path.parent?_of_isAbsolute absolute
    · simp [top] at ending
    · rw [above]
      dsimp only
      have making := Work.runFrom_onFiles (DocumentError.noDirectory parent)
        (fun fs => fs.createDirectories parent) { w with compilers }
      cases made : w.fs.createDirectories parent with
      | error cause =>
        simp only [made] at making
        rw [Step.runFrom_bind_error making]
        refine ⟨_, _, rfl, .refused rfl (fun admits => ?_) (.refl _) (.refl _ _)⟩
        obtain ⟨parent', fs₁, fs', above', made', -⟩ :=
          FileSystem.exists_store_of_admits tree absolute ending admits page.toByteArray
        obtain rfl := Option.some.inj (above.symm.trans above')
        rw [made] at made'
        cases made'
      | ok fs₁ =>
        simp only [made] at making
        rw [Step.runFrom_bind_ok making, Work.runFrom_onFiles]
        dsimp only [FileSystem.writeText]
        have grows := (FileSystem.createDirectories_eq_ok made).1
        have makesWay := FileSystem.makesWay_of_createDirectories absolute above made
        cases wrote : fs₁.write target page.toByteArray with
        | error cause =>
          refine ⟨_, _, rfl, .refused rfl (fun admits => ?_) grows makesWay⟩
          obtain ⟨parent', fs₁', fs', above', made', wrote'⟩ :=
            FileSystem.exists_store_of_admits tree absolute ending admits page.toByteArray
          obtain rfl := Option.some.inj (above.symm.trans above')
          obtain rfl := Except.ok.inj (made.symm.trans made')
          rw [wrote] at wrote'
          cases wrote'
        | ok fs' =>
          obtain ⟨place, located, writes, -⟩ := FileSystem.write_eq_ok wrote
          obtain rfl := FileSystem.locate_eq_ok absolute located
          exact ⟨_, _, rfl, .written rfl (FileSystem.admits_of_write absolute made wrote)
            (grows.writes writes)
            fun place directory => makesWay place (FileSystem.directory_of_write wrote directory)⟩

end

/-! ## Section 2: One attempt after the other -/

namespace FileSystem

variable {targets : Path → Prop} {base fs fs' : FileSystem} {target p : Path} {place : Place}

/-- What there is after some of the targets have been tried on the files of `base`. -/
structure Gains (targets : Path → Prop) (base fs : FileSystem) : Prop where
  tree : fs.IsTree
  keeps : base.Keeps fs
  directory : ∀ place, fs.entry? place = some .directory →
    base.entry? place = some .directory ∨ ∃ target, targets target ∧ place ∈ target.passes
  file? : ∀ place, (∀ target, targets target → base.Admits target → target.place ≠ place) →
    fs.file? place = base.file? place

theorem Gains.refl (tree : base.IsTree) : base.Gains targets base where
  tree := tree
  keeps := fun _ => id
  directory := fun _ => .inl
  file? := fun _ _ => rfl

theorem Gains.makesWay (gains : Gains targets base fs) (isTarget : targets target)
    (makesWay : fs.MakesWay fs' target) (place : Place)
    (directory : fs'.entry? place = some .directory) :
    base.entry? place = some .directory ∨ ∃ target, targets target ∧ place ∈ target.passes :=
  (makesWay place directory).elim (gains.directory place)
    fun passed => .inr ⟨target, isTarget, passed⟩

/-- A further attempt at a target. -/
theorem Gains.attempt {drawn : Except RenderError String} {result : Except DocumentError Unit}
    (gains : Gains targets base fs)
    (tried : ∀ page, drawn = .ok page →
      targets target ∧ (fs.Admits target ↔ base.Admits target))
    (attempt : Attempt drawn target fs result fs') : Gains targets base fs' := by
  cases attempt with
  | undrawn failed => exact gains
  | written isPage admits writes makesWay =>
    obtain ⟨isTarget, same⟩ := tried _ isPage
    refine ⟨writes.tree gains.tree, gains.keeps.trans writes.keeps, gains.makesWay isTarget makesWay,
      fun place noTarget => ?_⟩
    rw [writes.file?, if_neg (Ne.symm (noTarget target isTarget (same.mp admits)))]
    exact gains.file? place noTarget
  | refused isPage refuses grows makesWay =>
    obtain ⟨isTarget, -⟩ := tried _ isPage
    exact ⟨grows.tree gains.tree, gains.keeps.trans grows.keeps, gains.makesWay isTarget makesWay,
      fun place noTarget => (grows.file? place).trans (gains.file? place noTarget)⟩

/-- What is admitted stays admitted, and what is refused stays refused, if no target that is admitted
is on the way to another. -/
theorem Gains.admits_iff (gains : Gains targets base fs) (isTarget : targets target)
    (apart : ∀ t t', targets t → targets t' → base.Admits t → t.place ∉ t'.passes) :
    fs.Admits target ↔ base.Admits target := by
  have onWay : ∀ place ∈ target.passes, fs.file? place = base.file? place := by
    intro place passed
    refine gains.file? place fun other isOther admits => ?_
    rintro rfl
    exact apart other target isOther isTarget admits passed
  constructor
  · intro admits
    exact ⟨admits.valid, fun place passed => onWay place passed ▸ admits.clear place passed,
      fun directory => admits.free (gains.keeps _ directory), admits.apart, admits.notAsked⟩
  · intro admits
    refine ⟨admits.valid, fun place passed => (onWay place passed).trans (admits.clear place passed),
      fun directory => ?_, admits.apart, admits.notAsked⟩
    rcases gains.directory _ directory with old | ⟨other, isOther, passed⟩
    · exact admits.free old
    · exact apart target other isTarget isOther admits passed

theorem entry?_eq_of (file : fs'.file? place = fs.file? place)
    (directory : fs'.entry? place = some .directory ↔ fs.entry? place = some .directory) :
    fs'.entry? place = fs.entry? place := by
  unfold file? at file
  cases here : fs.entry? place with
  | none =>
    cases there : fs'.entry? place with
    | none => rfl
    | some entry => cases entry <;> simp_all
  | some entry =>
    cases there : fs'.entry? place with
    | none => cases entry <;> simp_all
    | some entry' => cases entry <;> cases entry' <;> simp_all

/-- A path that leads to no target leads to the same file as before, if it is plain or meets the ways
to targets in directories that were there before. -/
theorem Gains.alike (gains : Gains targets base fs) (tree : base.IsTree)
    (absolute : ∀ t, targets t → t.isAbsolute) (absolute' : p.isAbsolute)
    (elsewhere : ∀ t, targets t → t.place ≠ p.place)
    (upwards : ¬ p.IsPlain → ∀ t, targets t → ∀ place ∈ Path.wayOf p.steps,
      place ∈ Path.wayOf t.steps → base.entry? place = some .directory) : base.Alike fs p := by
  by_cases plain : p.IsPlain
  · have file := (gains.file? p.place fun t isTarget _ => elsewhere t isTarget).symm
    exact ⟨isFile_congr tree gains.tree plain file, readText_congr tree gains.tree plain file⟩
  · have same : ∀ place ∈ Path.wayOf p.steps, fs.entry? place = base.entry? place := by
      intro place onWay
      by_cases met : ∃ t, targets t ∧ place ∈ Path.wayOf t.steps
      · obtain ⟨t, isTarget, onOther⟩ := met
        have directory := upwards plain t isTarget place onWay onOther
        rw [directory, gains.keeps _ directory]
      · push Not at met
        refine entry?_eq_of (gains.file? place fun t isTarget _ => ?_)
          ⟨fun made => ?_, gains.keeps _⟩
        · rintro rfl
          refine met t isTarget ?_
          rw [Path.place_of_isAbsolute (absolute t isTarget)]
          exact Path.foldl_walk_mem_wayOf _
        · rcases gains.directory place made with old | ⟨t, isTarget, passed⟩
          · exact old
          · exact absurd (Path.wayOf_subset (List.dropLast_prefix _) passed) (met t isTarget)
    have found : fs.find p = base.find p := find_congr absolute' same
    exact ⟨by rw [isFile, isFile, found],
      fun _ => by rw [readText, readText, readBytes, readBytes, found]⟩

end FileSystem

end Folio
