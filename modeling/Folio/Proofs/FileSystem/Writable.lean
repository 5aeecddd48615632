import Folio.Proofs.FileSystem.Change
import Folio.Proofs.FileSystem.Way

/-!
# Where files can be written

To write a file with the directories above it is to follow the path from the root, to make every
place on the way a directory that is none yet, and to put the file at the end. Nothing stops this but
a file on the way, a directory at the end, which may be one only because the way itself leads through
it, and names that no directory can hold.

Main definitions:
- `FileSystem.store`: writing a file with the directories above it
- `FileSystem.Accepts`: whether that can be done
- `FileSystem.Admits`: what has to be so for that
- `FileSystem.MakesWay`: which directories are left of it

Main statements:
- `FileSystem.createDirectoriesFrom_of_clear`, `FileSystem.isNew_of_createDirectoriesFrom`: which
  directories are made
- `FileSystem.exists_store_iff`: where files can be written
-/

namespace Folio

namespace FileSystem

variable {fs fs' fs₁ : FileSystem} {p : Path} {front : List Component} {last : Component}
  {place : Place} {content : ByteArray}

/-! ## Section 1: Making directories -/

/-- What is above a directory is one. -/
theorem IsTree.directory_dropLast (tree : fs.IsTree)
    (directory : fs.entry? place = some .directory) :
    fs.entry? place.dropLast = some .directory := by
  by_cases root : place = []
  · simp [root]
  · refine tree.directory_of_prefix (List.dropLast_prefix place) (fun same => ?_)
      (by simp [directory])
    have shorter := congrArg List.length same
    have long := List.length_pos_iff.mpr root
    simp only [List.length_dropLast] at shorter
    omega

section

variable (tree : fs.IsTree) (absolute : p.isAbsolute) (valid : ValidSteps p.steps)
  (clear : ∀ place ∈ Path.wayOf p.steps, fs.file? place = none)

include tree absolute valid clear

/-- Where no file is on the way, a directory is made, or is there, or one above it is missing. -/
theorem createDirectory_of_clear :
    (∃ fs', fs.createDirectory p = .ok fs')
      ∨ (fs.createDirectory p = .error .alreadyExists ∧ fs.isDirectory p)
      ∨ (fs.createDirectory p = .error .notFound
        ∧ ∃ place ∈ p.passes, fs.entry? place ≠ some .directory) := by
  have located : fs.locate p = fs.follow [] p.steps := locate_of_validSteps absolute valid
  cases followed : fs.follow [] p.steps with
  | error e =>
    have clear' : ∀ place ∈ p.passes, fs.file? place = none := fun place mem =>
      clear place (Path.wayOf_subset (List.dropLast_prefix _) mem)
    obtain rfl := notFound_of_follow clear' valid p.root_not_mem_steps followed
    refine .inr (.inr ⟨by simp [createDirectory, located, followed], ?_⟩)
    by_contra all
    push Not at all
    rw [follow_of_directories all valid] at followed
    cases followed
  | ok place =>
    rw [followed] at located
    obtain rfl := follow_eq_ok followed
    have directories := (directories_of_follow p.root_not_mem_steps followed).1
    have noFile := clear _ (Path.foldl_walk_mem_wayOf p.steps)
    cases here : fs.entry? (p.steps.foldl Component.walk []) with
    | some entry =>
      cases entry with
      | file content => simp [file?, here] at noFile
      | directory =>
        have isDirectory := isDirectory_iff.mpr ⟨_, located, here⟩
        exact .inr (.inl ⟨by simp [createDirectory, located, here], isDirectory⟩)
    | none =>
      -- then there is a last step, and it is not upwards, since what is above a directory is one
      obtain empty | ⟨front, last, split⟩ := List.eq_nil_or_concat' p.steps
      · simp [empty] at here
      · rw [split, List.dropLast_concat] at directories
        have above := directories _ (Path.foldl_walk_mem_wayOf front)
        have walked : p.steps.foldl Component.walk []
            = last.walk (front.foldl Component.walk []) := by simp [split]
        rw [walked] at here located
        have isStep : last ∈ p.steps := by simp [split]
        obtain rfl | ⟨name, rfl, -⟩ := Path.mem_steps isStep
        · rw [Component.walk, tree.directory_dropLast above] at here
          cases here
        · rw [Component.walk] at here located
          exact .inl ⟨fs.set (front.foldl Component.walk [] ++ [name]) .directory,
            by simp [createDirectory, located, here, above]⟩

end

/-- Where no file is on the way, a directory can be made with those above it. -/
theorem createDirectoriesFrom_of_clear {fuel : Nat} (tree : fs.IsTree) (absolute : p.isAbsolute)
    (valid : ValidSteps p.steps) (clear : ∀ place ∈ Path.wayOf p.steps, fs.file? place = none)
    (room : p.steps.length < fuel) :
    ∃ fs', createDirectoriesFrom fuel fs p = .ok fs' := by
  -- on the steps, since a parent has one step less
  induction fuel generalizing p with
  | zero => omega
  | succ fuel ih =>
    have nonempty := Path.bytes_ne_nil_of_isAbsolute absolute
    unfold createDirectoriesFrom
    rw [if_neg nonempty]
    rcases createDirectory_of_clear tree absolute valid clear with
      ⟨fs', made⟩ | ⟨present, isDirectory⟩ | ⟨missing, place, passed, notThere⟩
    · exact ⟨fs', by rw [made]⟩
    · exact ⟨fs, by rw [present]; simp [isDirectory]⟩
    · rw [missing]
      dsimp only
      obtain ⟨top, -⟩ | ⟨q, -, parent, absolute', steps⟩ := Path.parent?_of_isAbsolute absolute
      · -- nothing is missing on the way to the root
        obtain rfl : place = [] := by simpa [Path.passes, top, Path.wayOf] using passed
        exact absurd (entry?_nil fs) notThere
      · have before : Path.wayOf q.steps ⊆ Path.wayOf p.steps :=
          Path.wayOf_subset (steps ▸ List.dropLast_prefix _)
        have shorter : q.steps.length < fuel := by
          have length := congrArg List.length steps
          rw [List.length_dropLast] at length
          have long : p.steps.length ≠ 0 := by
            intro none
            obtain rfl : place = [] := by
              simpa [Path.passes, List.length_eq_zero_iff.mp none, Path.wayOf] using passed
            exact notThere (entry?_nil fs)
          omega
        obtain ⟨fs₁, above⟩ := ih absolute'
          (fun name mem => valid name (List.dropLast_subset _ (steps ▸ mem)))
          (fun place mem => clear place (before mem)) shorter
        obtain ⟨grows, isDirectory⟩ := createDirectoriesFrom_eq_ok above
        have directories := directories_of_isDirectory absolute'
          (isDirectory (Path.bytes_ne_nil_of_isAbsolute absolute'))
        rw [steps] at directories
        rw [parent]
        dsimp only
        rw [above]
        dsimp only
        rcases createDirectory_of_clear (grows.tree tree) absolute valid
            (fun place mem => (grows.file? place).trans (clear place mem)) with
          ⟨fs', made⟩ | ⟨present, there⟩ | ⟨-, place', passed', notThere'⟩
        · exact ⟨fs', by rw [made]⟩
        · exact ⟨fs₁, by rw [present]; simp [there]⟩
        · exact absurd (directories place' passed') notThere'

/-- The only new directory is the one at the end of the path. -/
theorem isNew_of_createDirectory (absolute : p.isAbsolute) (h : fs.createDirectory p = .ok fs')
    (made : fs'.entry? place = some .directory) :
    fs.entry? place = some .directory ∨ place ∈ Path.wayOf p.steps := by
  obtain ⟨there, located, free, -, rfl⟩ := createDirectory_eq_ok h
  have nonempty : there ≠ [] := by
    rintro rfl
    simp at free
  rw [entry?_set nonempty] at made
  split at made
  · rename_i same
    rw [same, locate_eq_ok absolute located, Path.place_of_isAbsolute absolute]
    exact .inr (Path.foldl_walk_mem_wayOf _)
  · exact .inl made

/-- Only places on the way become directories. -/
theorem isNew_of_createDirectoriesFrom {fuel : Nat} (absolute : p.isAbsolute)
    (h : createDirectoriesFrom fuel fs p = .ok fs') (made : fs'.entry? place = some .directory) :
    fs.entry? place = some .directory ∨ place ∈ Path.wayOf p.steps := by
  induction fuel generalizing fs fs' p with
  | zero => simp [createDirectoriesFrom] at h
  | succ fuel ih =>
    unfold createDirectoriesFrom at h
    split at h
    · obtain rfl := Except.ok.inj h
      exact .inl made
    · split at h
      · rename_i done
        obtain rfl := Except.ok.inj h
        exact isNew_of_createDirectory absolute done made
      · obtain ⟨-, none⟩ | ⟨q, -, parent, absolute', steps⟩ := Path.parent?_of_isAbsolute absolute
        · rw [none] at h
          cases h
        · rw [parent] at h
          dsimp only at h
          have before : Path.wayOf q.steps ⊆ Path.wayOf p.steps :=
            Path.wayOf_subset (steps ▸ List.dropLast_prefix _)
          split at h
          · cases h
          · rename_i between above
            -- the way of the parent is the beginning of this one
            have old (made : between.entry? place = some .directory) :
                fs.entry? place = some .directory ∨ place ∈ Path.wayOf p.steps :=
              (ih absolute' above made).imp_right fun mem => before mem
            split at h
            · rename_i done
              obtain rfl := Except.ok.inj h
              exact (isNew_of_createDirectory absolute done made).elim old .inr
            · split at h
              · obtain rfl := Except.ok.inj h
                exact old made
              · cases h
      · split at h
        · obtain rfl := Except.ok.inj h
          exact .inl made
        · cases h

/-! ## Section 2: Writing a file with the directories above it -/

/-- Write a file, with the directories above it as far as they are missing. -/
def store (fs : FileSystem) (p : Path) (content : ByteArray) : Except IoError FileSystem :=
  match p.parent? with
  | none => fs.write p content
  | some parent =>
      match fs.createDirectories parent with
      | .error e => .error e
      | .ok fs => fs.write p content

/-- Whether a file can be written there, with the directories above it. -/
def Accepts (fs : FileSystem) (p : Path) : Prop := ∃ fs', fs.store p ByteArray.empty = .ok fs'

instance (fs : FileSystem) (p : Path) : Decidable (fs.Accepts p) :=
  match stored : fs.store p ByteArray.empty with
  | .ok fs' => isTrue ⟨fs', stored⟩
  | .error _ => isFalse fun ⟨fs', accepted⟩ => by rw [stored] at accepted; cases accepted

/-- What has to be so for a file to be written there: the names are those that directories can hold,
no file is on the way, and the place is no directory, and does not become one on the way. -/
structure Admits (fs : FileSystem) (p : Path) : Prop where
  valid : ValidSteps p.steps
  clear : ∀ place ∈ p.passes, fs.file? place = none
  free : fs.entry? p.place ≠ some .directory
  apart : p.place ∉ p.passes
  notAsked : asksForDirectory p = false

/-- A file that can be written when the directories above it have been made is admitted. -/
theorem admits_of_write {parent : Path} (absolute : p.isAbsolute)
    (made : fs.createDirectories parent = .ok fs₁) (wrote : fs₁.write p content = .ok fs') :
    fs.Admits p := by
  obtain ⟨place, located, writes, notAsked⟩ := write_eq_ok wrote
  obtain ⟨grows, -⟩ := createDirectories_eq_ok made
  have valid := validSteps_of_locate absolute located
  obtain rfl := locate_eq_ok absolute located
  rw [locate_of_validSteps absolute valid] at located
  have directories := (directories_of_follow p.root_not_mem_steps located).1
  have notDirectory : fs₁.entry? p.place ≠ some .directory := by
    intro directory
    simp [write, locate_of_validSteps absolute valid, located, directory] at wrote
  refine ⟨valid, fun place passed => ?_, fun directory => notDirectory (grows.keeps _ directory),
    fun passed => notDirectory (directories _ passed), notAsked⟩
  -- making directories has made no file, and taken none away
  rw [← grows.file? place, file?, directories place passed]

section

variable (tree : fs.IsTree) (absolute : p.isAbsolute) (ending : p.steps = front ++ [last])

include tree absolute ending

/-- Where a file is admitted, the directories above it can be made, and then it can be written. -/
theorem exists_store_of_admits (admits : fs.Admits p) (content : ByteArray) :
    ∃ parent fs₁ fs', p.parent? = some parent ∧ fs.createDirectories parent = .ok fs₁
      ∧ fs₁.write p content = .ok fs' := by
  obtain ⟨top, -⟩ | ⟨q, -, parent, absolute', steps⟩ := Path.parent?_of_isAbsolute absolute
  · simp [top] at ending
  · have room : q.steps.length < q.components.length + 2 := by
      rw [Path.components_eq_root_steps absolute', List.length_cons]
      omega
    obtain ⟨fs₁, above⟩ := createDirectoriesFrom_of_clear tree absolute'
      (fun name mem => admits.valid name (List.dropLast_subset _ (steps ▸ mem)))
      (fun place mem => admits.clear place (by rwa [Path.passes, ← steps])) room
    obtain ⟨grows, isDirectory⟩ := createDirectoriesFrom_eq_ok above
    have directories := directories_of_isDirectory absolute'
      (isDirectory (Path.bytes_ne_nil_of_isAbsolute absolute'))
    rw [steps] at directories
    have located : fs₁.locate p = .ok p.place := by
      rw [locate_of_validSteps absolute admits.valid, follow_of_directories directories admits.valid,
        Path.place_of_isAbsolute absolute]
    have free : fs₁.entry? p.place ≠ some .directory := by
      intro made
      rcases isNew_of_createDirectoriesFrom absolute' above made with old | passed
      · exact admits.free old
      · exact admits.apart (by rwa [Path.passes, ← steps])
    refine ⟨q, fs₁, fs₁.set p.place (.file content), parent, above, ?_⟩
    unfold write
    rw [located]
    dsimp only
    cases here : fs₁.entry? p.place with
    | some entry =>
      cases entry with
      | file old => simp [admits.notAsked]
      | directory => exact absurd here free
    | none =>
      -- the last step is to a name, in the directory that has been made last
      have walked : p.place = last.walk (front.foldl Component.walk []) := by
        simp [Path.place_of_isAbsolute absolute, ending]
      rw [ending, List.dropLast_concat] at directories
      have inside := directories _ (Path.foldl_walk_mem_wayOf front)
      have isStep : last ∈ p.steps := by simp [ending]
      obtain rfl | ⟨name, rfl, -⟩ := Path.mem_steps isStep
      · rw [walked, Component.walk, (grows.tree tree).directory_dropLast inside] at here
        cases here
      · have above' : fs₁.entry? p.place.dropLast = some .directory := by
          rw [walked, Component.walk, List.dropLast_concat, inside]
        simp [above', admits.notAsked]

/-- Where files can be written, whatever is written. -/
theorem exists_store_iff (content : ByteArray) :
    (∃ fs', fs.store p content = .ok fs') ↔ fs.Admits p := by
  constructor
  · rintro ⟨fs', stored⟩
    unfold store at stored
    split at stored
    · rename_i none
      obtain ⟨top, -⟩ | ⟨q, -, parent, -, -⟩ := Path.parent?_of_isAbsolute absolute
      · simp [top] at ending
      · rw [none] at parent
        cases parent
    · rename_i parent above
      split at stored
      · cases stored
      · rename_i fs₁ made
        exact admits_of_write absolute made stored
  · intro admits
    obtain ⟨parent, fs₁, fs', above, made, wrote⟩ :=
      exists_store_of_admits tree absolute ending admits content
    exact ⟨fs', by simp [store, above, made, wrote]⟩

theorem accepts_iff_admits : fs.Accepts p ↔ fs.Admits p :=
  exists_store_iff tree absolute ending ByteArray.empty

end

/-! ## Section 3: What is left of writing a file -/

/-- Only places on the way to a file have become directories. -/
def MakesWay (fs fs' : FileSystem) (p : Path) : Prop :=
  ∀ place, fs'.entry? place = some .directory →
    fs.entry? place = some .directory ∨ place ∈ p.passes

theorem MakesWay.refl (fs : FileSystem) (p : Path) : fs.MakesWay fs p := fun _ => .inl

theorem makesWay_of_createDirectories {parent : Path} (absolute : p.isAbsolute)
    (above : p.parent? = some parent) (made : fs.createDirectories parent = .ok fs₁) :
    fs.MakesWay fs₁ p := by
  obtain ⟨-, none⟩ | ⟨q, -, parent', absolute', steps⟩ := Path.parent?_of_isAbsolute absolute
  · rw [none] at above
    cases above
  · obtain rfl : q = parent := Option.some.inj (parent'.symm.trans above)
    intro place directory
    rw [Path.passes, ← steps]
    exact isNew_of_createDirectoriesFrom absolute' made directory

/-- Writing a file makes no directory. -/
theorem directory_of_write (h : fs.write p content = .ok fs')
    (directory : fs'.entry? place = some .directory) : fs.entry? place = some .directory := by
  have file_of_set {there : Place} (free : fs.entry? there ≠ some .directory)
      (directory : FileSystem.entry? (fs.set there (.file content)) place = some .directory) :
      fs.entry? place = some .directory := by
    have nonempty : there ≠ [] := by
      rintro rfl
      simp at free
    rw [entry?_set nonempty] at directory
    split at directory
    · cases directory
    · exact directory
  unfold write at h
  repeat' split at h
  all_goals cases h
  all_goals exact file_of_set (by simp_all) directory

end FileSystem

end Folio
