import Folio.Proofs.FileSystem.Tree
import Folio.Resources

/-!
# Finite resources

Resources that hold finitely many files have finitely many texts, at most as many as their size
says. Everything that is found out from the texts alone is therefore bounded by the size.

Main statements: `Resources.memory_isFinite` and `Resources.disk_isFinite`.
-/

namespace Folio

/-- No more texts can be read than the size says. -/
def Resources.IsFinite (resources : Resources) : Prop :=
  ∃ texts : List String, texts.length ≤ resources.size ∧
    ∀ path text, resources.readText path = .ok text → text ∈ texts

namespace Resources

theorem mem_of_lookupText {path : Path} {text : String} {files : List (Path × String)}
    (h : lookupText path files = some text) : text ∈ files.map Prod.snd := by
  induction files with
  | nil => simp [lookupText] at h
  | cons file rest ih =>
    obtain ⟨q, t⟩ := file
    unfold lookupText at h
    split at h
    · simp_all
    · exact List.mem_cons_of_mem _ (ih h)

/-- Every finite set of files in memory. -/
theorem memory_isFinite (files : List (Path × String)) : (memory files).IsFinite := by
  refine ⟨files.map Prod.snd, by simp [memory], ?_⟩
  intro path text h
  simp only [memory] at h
  split at h
  · rename_i found
    obtain rfl := Except.ok.inj h
    exact mem_of_lookupText found
  · cases h

end Resources

namespace FileSystem

/-- The text of an entry, if it is a file with text. -/
def Entry.text? : Entry → Option String
  | .file content => String.fromUTF8? content
  | .directory => none

theorem mem_of_readText {fs : FileSystem} {p : Path} {text : String} (h : fs.readText p = .ok text) :
    text ∈ fs.entries.filterMap fun e => e.2.text? := by
  unfold readText readBytes at h
  split at h
  · cases h
  · rename_i content read
    split at read
    · rename_i place content' found
      obtain rfl := Except.ok.inj read
      -- what is read is a file, and a file is one of the entries
      have isEntry := find_file found
      have nonempty : place ≠ [] := by
        rintro rfl
        simp at isEntry
      have entry := mem_of_isEntry nonempty isEntry
      split at h
      · rename_i decoded
        obtain rfl := Except.ok.inj h
        exact List.mem_filterMap.mpr ⟨_, entry, decoded⟩
      · cases h
    · cases read
    · cases read

end FileSystem

/-- Every directory of every file system. -/
theorem Resources.disk_isFinite (fs : FileSystem) (root : Path) : (disk fs root).IsFinite :=
  ⟨fs.entries.filterMap fun e => e.2.text?, List.length_filterMap_le _ _,
    fun _ _ h => FileSystem.mem_of_readText h⟩

end Folio
