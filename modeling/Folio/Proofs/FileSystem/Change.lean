import Folio.Proofs.FileSystem.Tree

/-!
# How operations change a file system

Making directories leaves all files as they are; writing changes the file at one place; removing a
directory takes away what is below one place. All of them lead from trees to trees.

Main definitions:
- `FileSystem.Grows`: nothing is lost, and no file is new
- `FileSystem.Writes`: one file is new or different

Main statements:
- `FileSystem.createDirectories_eq_ok`, `FileSystem.write_eq_ok`, `FileSystem.removeDirectories_eq_ok`
-/

namespace Folio.FileSystem

variable {fs fs' fs'' : FileSystem} {place q : Place} {entry : Entry} {p : Path}

theorem file?_set (nonempty : place ≠ []) (entry : Entry) (q : Place) :
    (fs.set place entry).file? q =
      if q = place then (match entry with | .file content => some content | .directory => none)
      else fs.file? q := by
  unfold file?
  rw [entry?_set nonempty]
  by_cases here : q = place
  · rw [if_pos here, if_pos here]
    cases entry <;> rfl
  · rw [if_neg here, if_neg here]

/-! ## Section 1: Making directories -/

/-- `fs'` has what `fs` has, and perhaps more directories. -/
structure Grows (fs fs' : FileSystem) : Prop where
  keeps : Keeps fs fs'
  file? : ∀ place, fs'.file? place = fs.file? place
  tree : fs.IsTree → fs'.IsTree
  workingDirectory : fs'.workingDirectory = fs.workingDirectory

namespace Grows

theorem refl (fs : FileSystem) : Grows fs fs := ⟨fun _ => id, fun _ => rfl, id, rfl⟩

theorem trans (h : Grows fs fs') (h' : Grows fs' fs'') : Grows fs fs'' where
  keeps := h.keeps.trans h'.keeps
  file? place := (h'.file? place).trans (h.file? place)
  tree := fun tree => h'.tree (h.tree tree)
  workingDirectory := h'.workingDirectory.trans h.workingDirectory

/-- A directory that is found with a file in it has been one before it was made. -/
theorem isDirectory_of_file (grows : Grows fs fs') (tree : fs.IsTree)
    (located : fs.locate p = .ok place) (made : fs'.entry? place = some .directory)
    (inside : place <+: q) {content : ByteArray} (file : fs.file? q = some content) :
    fs.isDirectory p := by
  have isEntry := file?_eq_some_iff.mp file
  -- making directories turns no file into one
  have differs : place ≠ q := by
    rintro rfl
    have file' := (grows.file? place).trans file
    rw [file?_eq_some_iff, made] at file'
    cases file'
  have directory := tree.directory_of_prefix inside differs (by simp [isEntry])
  exact isDirectory_iff.mpr ⟨place, located, directory⟩

end Grows

theorem createDirectory_eq_ok (h : fs.createDirectory p = .ok fs') :
    ∃ place, fs.locate p = .ok place ∧ fs.entry? place = none
      ∧ fs.entry? place.dropLast = some .directory ∧ fs' = fs.set place .directory := by
  unfold createDirectory at h
  split at h
  · cases h
  · rename_i place located
    split at h
    · cases h
    · rename_i free
      split at h
      · cases h
      · cases h
      · rename_i above
        exact ⟨place, located, free, above, (Except.ok.inj h).symm⟩

theorem createDirectory_grows (h : fs.createDirectory p = .ok fs') :
    Grows fs fs' ∧ fs'.isDirectory p := by
  obtain ⟨place, located, free, above, rfl⟩ := createDirectory_eq_ok h
  have nonempty : place ≠ [] := by
    rintro rfl
    simp at free
  -- nothing was at the place before
  have grows : Grows fs (fs.set place .directory) := by
    refine ⟨fun q directory => ?_, fun q => ?_, fun tree => ?_, rfl⟩
    · rw [entry?_set nonempty]
      split
      · rfl
      · exact directory
    · rw [file?_set nonempty]
      split
      · rename_i same
        simp [FileSystem.file?, same, free]
      · rfl
    · exact tree.set nonempty (tree.locate_valid located) above (.inl rfl)
  refine ⟨grows, isDirectory_iff.mpr ⟨place, grows.keeps.locate rfl located, ?_⟩⟩
  simp [entry?_set nonempty]

theorem createDirectoriesFrom_eq_ok {fuel : Nat} (h : createDirectoriesFrom fuel fs p = .ok fs') :
    Grows fs fs' ∧ (p.bytes ≠ [] → fs'.isDirectory p) := by
  -- on the number of parents that are still tried
  induction fuel generalizing fs fs' p with
  | zero => simp [createDirectoriesFrom] at h
  | succ fuel ih =>
    unfold createDirectoriesFrom at h
    split at h
    · rename_i empty
      obtain rfl := Except.ok.inj h
      exact ⟨.refl _, fun nonempty => absurd empty nonempty⟩
    · split at h
      · rename_i made
        obtain rfl := Except.ok.inj h
        obtain ⟨grows, isDirectory⟩ := createDirectory_grows made
        exact ⟨grows, fun _ => isDirectory⟩
      · -- what is above is made first, and then the directory itself
        split at h
        · cases h
        · split at h
          · cases h
          · rename_i between above
            obtain ⟨grows, -⟩ := ih above
            split at h
            · rename_i made
              obtain rfl := Except.ok.inj h
              obtain ⟨more, isDirectory⟩ := createDirectory_grows made
              exact ⟨grows.trans more, fun _ => isDirectory⟩
            · split at h
              · rename_i isDirectory
                obtain rfl := Except.ok.inj h
                exact ⟨grows, fun _ => isDirectory⟩
              · cases h
      · split at h
        · rename_i isDirectory
          obtain rfl := Except.ok.inj h
          exact ⟨.refl _, fun _ => isDirectory⟩
        · cases h

/-- After making directories there is one, and all files are as before. -/
theorem createDirectories_eq_ok (h : fs.createDirectories p = .ok fs') :
    Grows fs fs' ∧ (p.bytes ≠ [] → fs'.isDirectory p) :=
  createDirectoriesFrom_eq_ok h

/-! ## Section 2: Writing -/

/-- `fs'` has what `fs` has, perhaps more directories, and `content` in the file at a place. -/
structure Writes (fs : FileSystem) (place : Place) (content : ByteArray) (fs' : FileSystem) :
    Prop where
  keeps : Keeps fs fs'
  file? : ∀ q, fs'.file? q = if q = place then some content else fs.file? q
  tree : fs.IsTree → fs'.IsTree
  workingDirectory : fs'.workingDirectory = fs.workingDirectory

theorem Grows.writes {content : ByteArray} (grows : Grows fs fs')
    (h : Writes fs' place content fs'') : Writes fs place content fs'' where
  keeps := grows.keeps.trans h.keeps
  file? q := by rw [h.file? q, grows.file? q]
  tree := fun tree => h.tree (grows.tree tree)
  workingDirectory := h.workingDirectory.trans grows.workingDirectory

theorem write_eq_ok {content : ByteArray} (h : fs.write p content = .ok fs') :
    ∃ place, fs.locate p = .ok place ∧ Writes fs place content fs' ∧ asksForDirectory p = false
      := by
  -- an old file is replaced and a new one is added in the same way
  have file_of_set {place : Place} (located : fs.locate p = .ok place)
      (free : fs.entry? place ≠ some .directory)
      (above : fs.IsTree → fs.entry? place.dropLast = some .directory) :
      Writes fs place content (fs.set place (.file content)) := by
    have nonempty : place ≠ [] := by
      rintro rfl
      simp at free
    refine ⟨fun q directory => ?_, fun q => file?_set nonempty _ q, fun tree => ?_, rfl⟩
    · rw [entry?_set nonempty, if_neg ?_]
      · exact directory
      · rintro rfl
        exact free directory
    · exact tree.set nonempty (tree.locate_valid located) (above tree) (.inr free)
  unfold write at h
  split at h
  · cases h
  · rename_i place located
    split at h
    · cases h
    · rename_i content' found
      split at h
      · cases h
      · rename_i notAsked
        obtain rfl := Except.ok.inj h
        refine ⟨place, located, file_of_set located (by simp [found]) fun tree => ?_,
          by simpa using notAsked⟩
        have nonempty : place ≠ [] := by
          rintro rfl
          simp at found
        have whole := List.dropLast_append_getLast nonempty
        exact tree.inDirectory _ (place.getLast nonempty) (by simp [whole, found])
    · rename_i free
      split at h
      · cases h
      · cases h
      · rename_i above
        split at h
        · cases h
        · rename_i notAsked
          obtain rfl := Except.ok.inj h
          exact ⟨place, located, file_of_set located (by simp [free]) fun _ => above,
            by simpa using notAsked⟩

/-! ## Section 3: Removing -/

theorem removeDirectories_eq_ok (h : fs.removeDirectories p = .ok fs') :
    ∃ place, fs.locate p = .ok place ∧ fs.entry? place = some .directory ∧ fs' = fs.prune place := by
  unfold removeDirectories at h
  split at h
  · cases h
  · cases h
  · rename_i place found
    obtain ⟨located, directory, -⟩ := find_eq_ok_iff.mp found
    exact ⟨place, located, directory, (Except.ok.inj h).symm⟩

/-- What cannot be removed is no directory. -/
theorem removeDirectories_eq_error {e : IoError} (h : fs.removeDirectories p = .error e) :
    ¬ fs.isDirectory p := by
  intro isDirectory
  obtain ⟨place, located, directory⟩ := isDirectory_iff.mp isDirectory
  have found : fs.find p = .ok (place, .directory) :=
    find_eq_ok_iff.mpr ⟨located, directory, by simp⟩
  simp [removeDirectories, found] at h

theorem file?_prune (place q : Place) :
    (fs.prune place).file? q = if place <+: q then none else fs.file? q := by
  unfold file?
  rw [entry?_prune]
  by_cases root : q = []
  · simp [root]
  · by_cases below : place <+: q <;> simp [root, below]

/-- Pruning a file leaves all other files. -/
theorem file?_prune_file {fs : FileSystem} (tree : fs.IsTree) {place : Place} {content : ByteArray}
    (file : fs.file? place = some content) (q : Place) :
    (fs.prune place).file? q = if q = place then none else fs.file? q := by
  rw [file?_prune]
  by_cases here : q = place
  · simp [here]
  · rw [if_neg here]
    split
    · -- what is below is below a directory
      rename_i below
      cases found : fs.file? q with
      | none => rfl
      | some other =>
        have directory := tree.directory_of_prefix below (Ne.symm here)
          (by rw [file?_eq_some_iff.mp found]; exact Option.some_ne_none _)
        rw [file?_eq_some_iff.mp file] at directory
        cases directory
    · rfl

end Folio.FileSystem
