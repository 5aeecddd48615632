import Folio.FileSystem
import Folio.Proofs.Path.Steps
import Mathlib.Data.List.Induction

/-!
# File systems as trees

What a file system holds is told by the files at its places. In a tree, where everything that has a
place is in a directory, the other directories follow from the files, and a path that does not step
upwards leads to the place that it spells. What is read along such a path therefore depends on the
file at that place alone.

Main definitions:
- `FileSystem.file?`: the content of the file at a place
- `FileSystem.IsTree`: everything that has a place is in a directory
- `FileSystem.Keeps`: every directory stays one

Main statements:
- `FileSystem.find_eq_file_iff`: where a plain path leads to a file
- `FileSystem.isFile_congr`, `FileSystem.readText_congr`: what reading depends on
-/

namespace Folio

/-! ## Section 1: Entries -/

namespace FileSystem

variable {fs fs' : FileSystem} {place q : Place} {entry : Entry}

theorem mem_of_lookup {entries : List (Place × Entry)} (h : lookup place entries = some entry) :
    (place, entry) ∈ entries := by
  induction entries with
  | nil => simp [lookup] at h
  | cons first rest ih =>
    obtain ⟨p, e⟩ := first
    unfold lookup at h
    split at h
    · simp_all
    · exact List.mem_cons_of_mem _ (ih h)

theorem lookup_put (place q : Place) (entry : Entry) (entries : List (Place × Entry)) :
    lookup q (put place entry entries) = if q = place then some entry else lookup q entries := by
  -- on the entries, which are sorted: the new one is put before the first greater one
  induction entries with
  | nil => simp [put, lookup, eq_comm]
  | cons first rest ih =>
    obtain ⟨p, e⟩ := first
    simp only [put]
    split
    · rename_i same
      subst same
      by_cases here : q = p
      · simp [lookup, here]
      · simp [lookup, here, Ne.symm here]
    · rename_i differs
      split
      · by_cases here : q = place
        · simp [lookup, here]
        · simp [lookup, here, Ne.symm here]
      · by_cases here : q = place
        · subst here
          simp [lookup, differs, ih]
        · simp [lookup, here, ih]

theorem lookup_filter (keeps : Place → Bool) (q : Place) (entries : List (Place × Entry)) :
    lookup q (entries.filter fun (p, _) => keeps p)
      = if keeps q then lookup q entries else none := by
  induction entries with
  | nil => simp [lookup]
  | cons first rest ih =>
    obtain ⟨p, e⟩ := first
    by_cases here : p = q
    · subst here
      cases kept : keeps p <;> simp_all [lookup]
    · cases kept : keeps p <;> simp_all [lookup]

theorem mem_put {entries : List (Place × Entry)} {e : Place × Entry}
    (h : e ∈ put place entry entries) : e = (place, entry) ∨ e ∈ entries := by
  induction entries with
  | nil => simp_all [put]
  | cons first rest ih =>
    obtain ⟨p, e'⟩ := first
    unfold put at h
    split at h
    · rcases List.mem_cons.mp h with rfl | h
      · exact .inl rfl
      · exact .inr (List.mem_cons_of_mem _ h)
    · split at h
      · rcases List.mem_cons.mp h with rfl | h
        · exact .inl rfl
        · exact .inr h
      · rcases List.mem_cons.mp h with rfl | h
        · exact .inr List.mem_cons_self
        · exact (ih h).imp_right (List.mem_cons_of_mem _)

@[simp] theorem entry?_nil (fs : FileSystem) : fs.entry? [] = some .directory := rfl

theorem mem_of_isEntry (nonempty : place ≠ []) (h : fs.entry? place = some entry) :
    (place, entry) ∈ fs.entries := by
  unfold entry? at h
  rw [if_neg nonempty] at h
  exact mem_of_lookup h

theorem entry?_set (nonempty : place ≠ []) (entry : Entry) (q : Place) :
    entry? (fs.set place entry) q = if q = place then some entry else fs.entry? q := by
  unfold entry? set
  dsimp only
  rw [lookup_put]
  by_cases root : q = []
  · simp [root, Ne.symm nonempty]
  · simp [root]

theorem entry?_prune (place : Place) (q : Place) :
    entry? (fs.prune place) q = if place <+: q ∧ q ≠ [] then none else fs.entry? q := by
  unfold entry? prune
  dsimp only
  rw [lookup_filter fun p => !place.isPrefixOf p]
  by_cases root : q = []
  · simp [root]
  · cases below : place.isPrefixOf q <;> simp [root, ← List.isPrefixOf_iff_prefix, below]

/-- The content of the file at a place. -/
def file? (fs : FileSystem) (place : Place) : Option ByteArray :=
  match fs.entry? place with
  | some (.file content) => some content
  | _ => none

theorem file?_eq_some_iff {content : ByteArray} :
    fs.file? place = some content ↔ fs.entry? place = some (.file content) := by
  unfold file?
  split <;> simp_all

end FileSystem

/-! ## Section 2: Trees -/

/-- A name that a directory can hold. -/
structure Name.IsValid (name : Name) : Prop extends name.IsSegment where
  noNul : 0 ∉ name
  short : name.length ≤ FileSystem.maxName

namespace FileSystem

variable {fs fs' : FileSystem} {place q : Place} {entry : Entry} {p : Path}

/-- A tree: the names are those that directories can hold, and everything that has a place is in a
directory. -/
structure IsTree (fs : FileSystem) : Prop where
  valid : ∀ e ∈ fs.entries, ∀ name ∈ e.1, name.IsValid
  inDirectory : ∀ place name, fs.entry? (place ++ [name]) ≠ none →
    fs.entry? place = some .directory
  validWorkingDirectory : ∀ name ∈ fs.workingDirectory, name.IsValid

namespace IsTree

theorem valid_of_isEntry (tree : fs.IsTree) (h : fs.entry? place = some entry) :
    ∀ name ∈ place, name.IsValid := by
  by_cases root : place = []
  · simp [root]
  · exact tree.valid _ (mem_of_isEntry root h)

theorem valid_of_file? (tree : fs.IsTree) {content : ByteArray}
    (h : fs.file? place = some content) : ∀ name ∈ place, name.IsSegment :=
  fun name mem => (tree.valid_of_isEntry (file?_eq_some_iff.mp h) name mem).toIsSegment

/-- What leads to something that has a place are directories. -/
theorem directory_of_append (tree : fs.IsTree) {names : List Name} (nonempty : names ≠ [])
    (h : fs.entry? (place ++ names) ≠ none) : fs.entry? place = some .directory := by
  -- from below, since what a tree knows is the directory just above
  induction names using List.reverseRecOn with
  | nil => contradiction
  | append_singleton init last ih =>
    rw [← List.append_assoc] at h
    have above := tree.inDirectory _ _ h
    by_cases single : init = []
    · simpa [single] using above
    · exact ih single (by simp [above])

theorem directory_of_prefix (tree : fs.IsTree) (below : place <+: q) (differs : place ≠ q)
    (h : fs.entry? q ≠ none) : fs.entry? place = some .directory := by
  obtain ⟨names, rfl⟩ := below
  exact tree.directory_of_append (fun empty => differs (by simp [empty])) h

theorem set (tree : fs.IsTree) (nonempty : place ≠ []) (valid : ∀ name ∈ place, name.IsValid)
    (above : fs.entry? place.dropLast = some .directory)
    (fits : entry = .directory ∨ fs.entry? place ≠ some .directory) :
    (fs.set place entry).IsTree where
  valid := by
    intro e mem
    rcases mem_put mem with rfl | mem
    · exact valid
    · exact tree.valid e mem
  inDirectory := by
    intro q name h
    rw [entry?_set nonempty] at h ⊢
    by_cases here : q ++ [name] = place
    · have above' : q = place.dropLast := by simp [← here]
      have differs : q ≠ place := by
        rintro rfl
        simpa using congrArg List.length here
      rw [if_neg differs, above', above]
    · rw [if_neg here] at h
      have directory := tree.inDirectory q name h
      split
      · rename_i same
        -- a directory that holds something is not replaced by a file
        subst same
        rcases fits with rfl | fits
        · rfl
        · exact absurd directory fits
      · exact directory
  validWorkingDirectory := tree.validWorkingDirectory

theorem prune (tree : fs.IsTree) (place : Place) : (fs.prune place).IsTree where
  valid := fun e mem => tree.valid e (List.mem_of_mem_filter mem)
  inDirectory := by
    intro q name h
    rw [entry?_prune] at h ⊢
    split at h
    · contradiction
    · rename_i outside
      have directory := tree.inDirectory q name h
      split
      · rename_i inside
        exact absurd ⟨inside.1.trans (List.prefix_append ..), by simp⟩ outside
      · exact directory
  validWorkingDirectory := tree.validWorkingDirectory

end IsTree

theorem mem_entries_iff {fs : FileSystem} (nonempty : place ≠ []) :
    fs.entry? place ≠ none ↔ ∃ e ∈ fs.entries, e.1 = place := by
  have lookup_ne_none (entries : List (Place × Entry)) :
      lookup place entries ≠ none ↔ ∃ e ∈ entries, e.1 = place := by
    induction entries with
    | nil => simp [lookup]
    | cons first rest ih =>
      by_cases here : first.1 = place
      · simp [lookup, here]
      · simp [lookup, here, ih]
  unfold entry?
  rw [if_neg nonempty, lookup_ne_none]

/-- Whether a file system is a tree can be told from its entries. -/
theorem isTree_iff : fs.IsTree ↔
    (∀ e ∈ fs.entries, ∀ name ∈ e.1, name.IsValid)
      ∧ (∀ e ∈ fs.entries, e.1 ≠ [] → fs.entry? e.1.dropLast = some .directory)
      ∧ ∀ name ∈ fs.workingDirectory, name.IsValid := by
  constructor
  · intro tree
    refine ⟨tree.valid, fun e mem nonempty => ?_, tree.validWorkingDirectory⟩
    have whole := List.dropLast_append_getLast nonempty
    refine tree.inDirectory _ (e.1.getLast nonempty) ?_
    rw [whole, mem_entries_iff nonempty]
    exact ⟨e, mem, rfl⟩
  · rintro ⟨valid, inDirectory, validWorkingDirectory⟩
    refine ⟨valid, fun place name h => ?_, validWorkingDirectory⟩
    obtain ⟨e, mem, same⟩ := (mem_entries_iff (by simp)).mp h
    have above := inDirectory e mem (by simp [same])
    rwa [same, List.dropLast_concat] at above

instance (name : Name) : Decidable name.IsValid :=
  decidable_of_iff
    (Name.slash ∉ name ∧ Path.componentOf? name = some (.normal name) ∧ 0 ∉ name
      ∧ name.length ≤ maxName)
    ⟨fun ⟨unbroken, named, noNul, short⟩ => ⟨⟨unbroken, named⟩, noNul, short⟩,
      fun h => ⟨h.unbroken, h.named, h.noNul, h.short⟩⟩

instance (fs : FileSystem) : Decidable fs.IsTree := decidable_of_iff' _ isTree_iff

/-! ## Section 3: Following steps -/

theorem follow_append (fs : FileSystem) (place : Place) (before after : List Component) :
    fs.follow place (before ++ after) = (fs.follow place before).bind (fs.follow · after) := by
  -- on the first steps; the cases are those of a single step
  induction before generalizing place with
  | nil => rfl
  | cons step rest ih =>
    cases step with
    | root => simp only [List.cons_append, follow, ih]
    | current | parent | normal =>
      simp only [List.cons_append, follow]
      repeat' split
      all_goals first | rfl | apply ih

theorem follow_cons (fs : FileSystem) (place : Place) (step : Component) (rest : List Component) :
    fs.follow place (step :: rest) = (fs.follow place [step]).bind (fs.follow · rest) :=
  fs.follow_append place [step] rest

/-- One step leads from a directory, and a name is no longer than a directory can hold. -/
theorem follow_step_eq_ok {step : Component} (h : fs.follow place [step] = .ok q) :
    q = step.walk place ∧ (step = .root ∨ fs.entry? place = some .directory)
      ∧ ∀ name, step = .normal name → name.length ≤ maxName := by
  cases step with
  | root => simp_all [follow, Component.walk]
  | current | parent | normal =>
    simp only [follow] at h
    split at h
    · cases h
    · cases h
    · rename_i directory
      repeat' split at h
      all_goals simp_all [Component.walk]

theorem follow_step {step : Component} (directory : fs.entry? place = some .directory)
    (short : ∀ name, step = .normal name → name.length ≤ maxName) :
    fs.follow place [step] = .ok (step.walk place) := by
  cases step with
  | normal name =>
    have fits : ¬ name.length > maxName := Nat.not_lt.mpr (short name rfl)
    simp [follow, Component.walk, directory, fits]
  | root | current | parent => simp [follow, Component.walk, directory]

/-- Where steps lead is told by the steps alone. -/
theorem follow_eq_ok {steps : List Component} (h : fs.follow place steps = .ok q) :
    q = steps.foldl Component.walk place := by
  induction steps generalizing place with
  | nil => simpa [follow, eq_comm] using h
  | cons step rest ih =>
    rw [follow_cons] at h
    cases first : fs.follow place [step] with
    | error e => simp [first, Except.bind] at h
    | ok next =>
      obtain ⟨rfl, -, -⟩ := follow_step_eq_ok first
      rw [first] at h
      exact ih h

/-- Every directory of `fs` is a directory of `fs'`. -/
def Keeps (fs fs' : FileSystem) : Prop :=
  ∀ place, fs.entry? place = some .directory → fs'.entry? place = some .directory

theorem Keeps.trans {fs'' : FileSystem} (h : Keeps fs fs') (h' : Keeps fs' fs'') : Keeps fs fs'' :=
  fun place directory => h' place (h place directory)

theorem Keeps.follow (keeps : Keeps fs fs') {steps : List Component}
    (h : fs.follow place steps = .ok q) : fs'.follow place steps = .ok q := by
  induction steps generalizing place with
  | nil => exact h
  | cons step rest ih =>
    rw [follow_cons] at h ⊢
    cases first : fs.follow place [step] with
    | error e => simp [first, Except.bind] at h
    | ok next =>
      rw [first] at h
      obtain ⟨rfl, directory, short⟩ := follow_step_eq_ok first
      have first' : fs'.follow place [step] = .ok (step.walk place) := by
        rcases directory with rfl | directory
        · rfl
        · exact follow_step (keeps _ directory) short
      rw [first']
      exact ih h

/-- Names lead to whatever has their place. -/
theorem IsTree.follow_names (tree : fs.IsTree) {names : List Name}
    (h : fs.entry? (place ++ names) ≠ none) :
    fs.follow place (names.map .normal) = .ok (place ++ names) := by
  induction names generalizing place with
  | nil => simp [follow]
  | cons name rest ih =>
    have directory := tree.directory_of_append (List.cons_ne_nil name rest) h
    obtain ⟨entry, found⟩ := Option.ne_none_iff_exists'.mp h
    -- every name on the way is one that a directory holds
    have short := (tree.valid_of_isEntry found name (by simp)).short
    have rest' : fs.entry? ((place ++ [name]) ++ rest) ≠ none := by simpa using h
    rw [List.map_cons, follow_cons, follow_step directory (by rintro _ ⟨⟩; exact short)]
    have more := ih rest'
    rw [List.append_assoc] at more
    exact more

/-- What steps lead to has names that a directory can hold, if those of the steps are so. -/
theorem follow_valid {steps : List Component} (start : ∀ name ∈ place, name.IsValid)
    (names : ∀ name, Component.normal name ∈ steps → name.IsSegment ∧ 0 ∉ name)
    (h : fs.follow place steps = .ok q) : ∀ name ∈ q, name.IsValid := by
  induction steps generalizing place with
  | nil =>
    obtain rfl := Except.ok.inj h
    exact start
  | cons step rest ih =>
    rw [follow_cons] at h
    cases first : fs.follow place [step] with
    | error e => simp [first, Except.bind] at h
    | ok next =>
      rw [first] at h
      obtain ⟨rfl, -, short⟩ := follow_step_eq_ok first
      refine ih ?_ (fun name mem => names name (List.mem_cons_of_mem _ mem)) h
      -- only a step to a name adds one
      cases step with
      | root => simp [Component.walk]
      | current => exact start
      | parent => exact fun name mem => start name (List.dropLast_subset _ mem)
      | normal name =>
        intro other mem
        rcases List.mem_append.mp mem with mem | mem
        · exact start other mem
        · obtain rfl := List.mem_singleton.mp mem
          obtain ⟨segment, noNul⟩ := names other List.mem_cons_self
          exact ⟨segment, noNul, short other rfl⟩

/-! ## Section 4: What a spelling asks for -/

/-- What a spelling asks for is told by what is behind its last separator. -/
theorem asksForDirectory_append_slash (before after : List UInt8) :
    asksForDirectory ⟨before ++ Name.slash :: after⟩ = asksForDirectory ⟨after⟩ := by
  have nonempty := Path.segmentsOf_ne_nil after
  rw [asksForDirectory, asksForDirectory, Path.segments, Path.segments,
    Path.segmentsOf_append_slash, List.getLast?_append_of_ne_nil _ nonempty]

theorem asksForDirectory_join (p q : Path) :
    asksForDirectory (p.join q) = asksForDirectory q := by
  obtain ⟨before⟩ := p
  obtain ⟨after⟩ := q
  unfold Path.join
  split
  · rfl
  · split
    · rename_i empty_or_slash
      simp only [Bool.or_eq_true, decide_eq_true_eq] at empty_or_slash
      rcases empty_or_slash with rfl | slash
      · rfl
      · -- the separator is there already
        obtain ⟨init, rfl⟩ := List.getLast?_eq_some_iff.mp slash
        have joined := asksForDirectory_append_slash init after
        simpa using joined
    · exact asksForDirectory_append_slash before after

/-- A row of names asks for nothing. -/
theorem asksForDirectory_ofNames {names : List Name} (nonempty : names ≠ [])
    (valid : ∀ name ∈ names, name.IsSegment) : asksForDirectory (.ofNames names) = false := by
  have named := (valid _ (List.getLast_mem nonempty)).named
  rw [asksForDirectory, Path.segments_ofNames nonempty valid,
    List.getLast?_eq_some_getLast nonempty]
  simp [named]

/-- The path of a place asks for nothing, unless the place is the root. -/
theorem asksForDirectory_ofRootNames (nonempty : place ≠ [])
    (valid : ∀ name ∈ place, name.IsSegment) : asksForDirectory (.ofRootNames place) = false := by
  have spelled : asksForDirectory (.ofRootNames place) = asksForDirectory (.ofNames place) :=
    asksForDirectory_append_slash [] _
  rw [spelled, asksForDirectory_ofNames nonempty valid]

/-! ## Section 5: What a path leads to -/

theorem locate_of_isAbsolute (absolute : p.isAbsolute) (noNul : p.bytes.contains 0 = false) :
    fs.locate p = fs.follow [] p.steps := by
  obtain ⟨rest, rfl⟩ := Path.isAbsolute_iff.mp absolute
  rw [locate, noNul, if_neg (by simp), if_neg (by simp), if_pos absolute,
    Path.components_eq_root_steps absolute]
  rfl

theorem locate_noNul (h : fs.locate p = .ok place) : p.bytes.contains 0 = false := by
  unfold locate at h
  split at h
  · cases h
  · rename_i noNul
    simpa using noNul

/-- An absolute path leads to its place, if it leads anywhere. -/
theorem locate_eq_ok (absolute : p.isAbsolute) (h : fs.locate p = .ok place) : place = p.place := by
  rw [locate_of_isAbsolute absolute (locate_noNul h)] at h
  rw [follow_eq_ok h, Path.place_of_isAbsolute absolute]

theorem IsTree.locate_valid (tree : fs.IsTree) (h : fs.locate p = .ok place) :
    ∀ name ∈ place, name.IsValid := by
  have noNul := locate_noNul h
  have names : ∀ name, Component.normal name ∈ p.components → name.IsSegment ∧ 0 ∉ name := by
    intro name mem
    refine ⟨Path.isSegment_of_mem_components mem, fun nul => ?_⟩
    -- a byte of a name is one of the path
    have inBytes := Path.mem_bytes_of_mem_components mem nul
    simp_all
  unfold locate at h
  split at h
  · cases h
  · split at h
    · cases h
    · refine follow_valid ?_ names h
      split
      · simp
      · exact tree.validWorkingDirectory

/-- A plain path leads to its place, if something has that place. -/
theorem IsTree.locate_eq (tree : fs.IsTree) (plain : p.IsPlain) (found : fs.entry? p.place ≠ none) :
    fs.locate p = .ok p.place := by
  -- a byte of zero would be in a name of the place
  have noNul : p.bytes.contains 0 = false := by
    rw [Bool.eq_false_iff]
    intro nul
    obtain ⟨name, mem, inName⟩ := Path.exists_mem_names_of_mem_bytes (List.contains_iff_mem.mp nul)
      (by decide) (by decide)
    rw [← plain.place_eq_names] at mem
    obtain ⟨entry, isEntry⟩ := Option.ne_none_iff_exists'.mp found
    exact (tree.valid_of_isEntry isEntry name mem).noNul inName
  have follows : fs.follow [] (p.place.map .normal) = .ok ([] ++ p.place) := tree.follow_names found
  rw [locate_of_isAbsolute plain.absolute noNul, plain.steps_eq, follows, List.nil_append]

theorem IsTree.locate_of_file? (tree : fs.IsTree) (plain : p.IsPlain) {names : List Name}
    (file : fs.file? (p.place ++ names) ≠ none) : fs.locate p = .ok p.place := by
  obtain ⟨content, isFile⟩ := Option.ne_none_iff_exists'.mp file
  have isEntry := file?_eq_some_iff.mp isFile
  refine tree.locate_eq plain ?_
  by_cases empty : names = []
  · simp_all
  · have directory : fs.entry? p.place = some .directory :=
      tree.directory_of_append empty (by simp [isEntry])
    simp [directory]

theorem Keeps.locate (keeps : Keeps fs fs')
    (same : fs'.workingDirectory = fs.workingDirectory) (h : fs.locate p = .ok place) :
    fs'.locate p = .ok place := by
  unfold FileSystem.locate at h ⊢
  split at h
  · cases h
  · split at h
    · cases h
    · rename_i noNul nonempty
      rw [if_neg noNul, if_neg nonempty, same]
      exact keeps.follow h

theorem find_file {content : ByteArray} (h : fs.find p = .ok (place, .file content)) :
    fs.entry? place = some (.file content) := by
  unfold find at h
  split at h
  · cases h
  · split at h
    · cases h
    · split at h <;> simp_all
    · simp at h

theorem find_eq_ok_iff : fs.find p = .ok (place, entry) ↔
    fs.locate p = .ok place ∧ fs.entry? place = some entry
      ∧ (entry ≠ .directory → asksForDirectory p = false) := by
  constructor
  · intro h
    unfold find at h
    split at h
    · cases h
    · rename_i q located
      split at h
      · cases h
      · split at h <;> simp_all
      · simp_all
  · rintro ⟨located, found, notAsked⟩
    unfold find
    rw [located]
    dsimp only
    rw [found]
    cases entry with
    | directory => rfl
    | file content => simp [notAsked (by simp)]

theorem isFile_iff : fs.isFile p ↔ ∃ place content, fs.find p = .ok (place, .file content) := by
  unfold isFile
  constructor
  · intro h
    split at h
    · exact ⟨_, _, by assumption⟩
    · cases h
  · rintro ⟨place, content, found⟩
    rw [found]

theorem isDirectory_iff :
    fs.isDirectory p ↔ ∃ place, fs.locate p = .ok place ∧ fs.entry? place = some .directory := by
  unfold isDirectory
  constructor
  · intro h
    split at h
    · rename_i place found
      obtain ⟨located, directory, -⟩ := find_eq_ok_iff.mp found
      exact ⟨place, located, directory⟩
    · cases h
  · rintro ⟨place, located, directory⟩
    have found : fs.find p = .ok (place, .directory) :=
      find_eq_ok_iff.mpr ⟨located, directory, by simp⟩
    rw [found]

theorem pathExists_of_isDirectory (h : fs.isDirectory p) : fs.pathExists p := by
  unfold isDirectory at h
  unfold pathExists
  split at h
  · rename_i found
    rw [found]
  · cases h

/-- A path leads to the file at its place, if there is one. -/
def LeadsToFile (fs : FileSystem) (p : Path) : Prop :=
  fs.file? p.place ≠ none → fs.locate p = .ok p.place

theorem LeadsToFile.find_eq_file_iff (leads : fs.LeadsToFile p) (absolute : p.isAbsolute)
    {content : ByteArray} : fs.find p = .ok (place, .file content)
      ↔ asksForDirectory p = false ∧ place = p.place ∧ fs.file? p.place = some content := by
  rw [find_eq_ok_iff]
  constructor
  · rintro ⟨located, found, notAsked⟩
    obtain rfl := locate_eq_ok absolute located
    exact ⟨notAsked (by simp), rfl, file?_eq_some_iff.mpr found⟩
  · rintro ⟨notAsked, rfl, file⟩
    exact ⟨leads (by simp [file]), file?_eq_some_iff.mp file, fun _ => notAsked⟩

/-- A plain path leads to the file at its place. -/
theorem IsTree.find_eq_file_iff (tree : fs.IsTree) (plain : p.IsPlain) {content : ByteArray} :
    fs.find p = .ok (place, .file content)
      ↔ asksForDirectory p = false ∧ place = p.place ∧ fs.file? p.place = some content := by
  have leads : fs.LeadsToFile p := fun file => by
    obtain ⟨content, isFile⟩ := Option.ne_none_iff_exists'.mp file
    exact tree.locate_eq plain (by simp [file?_eq_some_iff.mp isFile])
  exact leads.find_eq_file_iff plain.absolute

theorem IsTree.isFile_iff (tree : fs.IsTree) (plain : p.IsPlain) :
    fs.isFile p ↔ asksForDirectory p = false ∧ ∃ content, fs.file? p.place = some content := by
  rw [FileSystem.isFile_iff]
  constructor
  · rintro ⟨place, content, found⟩
    obtain ⟨notAsked, -, file⟩ := (tree.find_eq_file_iff plain).mp found
    exact ⟨notAsked, content, file⟩
  · rintro ⟨notAsked, content, file⟩
    exact ⟨_, content, (tree.find_eq_file_iff plain).mpr ⟨notAsked, rfl, file⟩⟩

/-- The text of a file with a content. -/
def textOf (content : ByteArray) : Except IoError String :=
  match String.fromUTF8? content with
  | some text => .ok text
  | none => .error .notUtf8

theorem IsTree.readText_eq (tree : fs.IsTree) (plain : p.IsPlain)
    (notAsked : asksForDirectory p = false) {content : ByteArray}
    (file : fs.file? p.place = some content) : fs.readText p = textOf content := by
  have found := (tree.find_eq_file_iff plain).mpr ⟨notAsked, rfl, file⟩
  rw [readText, readBytes, found]
  rfl

theorem textOf_toByteArray (text : String) : textOf text.toByteArray = .ok text := by
  have valid : text.toByteArray.IsValidUTF8 := text.isValidUTF8
  rw [textOf, String.fromUTF8?, dif_pos valid]
  rfl

/-- A text can be read where it is. -/
theorem readText_of_file? {text : String} (located : fs.locate p = .ok place)
    (file : fs.file? place = some text.toByteArray) (notAsked : asksForDirectory p = false) :
    fs.readText p = .ok text := by
  have found : fs.find p = .ok (place, .file text.toByteArray) :=
    find_eq_ok_iff.mpr ⟨located, file?_eq_some_iff.mp file, fun _ => notAsked⟩
  rw [readText, readBytes, found]
  exact textOf_toByteArray text

/-- Whether a plain path names a file depends on the file at its place alone. -/
theorem isFile_congr (tree : fs.IsTree) (tree' : fs'.IsTree) (plain : p.IsPlain)
    (same : fs.file? p.place = fs'.file? p.place) : fs.isFile p = fs'.isFile p := by
  rw [Bool.eq_iff_iff, tree.isFile_iff plain, tree'.isFile_iff plain, same]

/-- What a plain path that names a file has as its text depends on the file at its place alone. -/
theorem readText_congr (tree : fs.IsTree) (tree' : fs'.IsTree) (plain : p.IsPlain)
    (same : fs.file? p.place = fs'.file? p.place) (isFile : fs.isFile p) :
    fs.readText p = fs'.readText p := by
  obtain ⟨notAsked, content, file⟩ := (tree.isFile_iff plain).mp isFile
  rw [tree.readText_eq plain notAsked file, tree'.readText_eq plain notAsked (same ▸ file)]

end FileSystem

end Folio
