import Folio.Proofs.Render.Outcome
import Folio.Proofs.Resources.Candidates

/-!
# Names of layouts and partials

Documents name layouts, and templates name partials, by texts of any kind. Such a text is seen from
a directory. If it has a name in it, what it can be resolved to is below the directory; slashes in
front, dots and repeated separators do not lead out, and a step upwards leads nowhere. If it has
none, it stands for the directory itself, and what it can be resolved to is beside the directory.

Main definitions:
- `Path.IsBelow`: a path that goes on from another one with names
- `Path.isBlank`: a path without a step
- `Template.Partials.IsConfined`: directories and extensions for which names stay below

Main statement: `Pipeline.names_stay_below`.
-/

namespace Folio

/-! ## Section 1: Paths seen from a directory -/

namespace Path

variable {directory file : Path} {name : String} {extensions : List String}

/-- A path leads on from a directory by at least one name. -/
def IsBelow (file directory : Path) : Prop :=
  ∃ inner : List Name, inner ≠ [] ∧ file.components = directory.components ++ inner.map .normal

/-- A path with no step in it: nothing but separators and dots. -/
def isBlank (p : Path) : Bool := p.components.all fun c => c = .root || c = .current

theorem isBlank_iff {p : Path} : p.isBlank ↔ p.steps = [] := by
  have nothing : p.isBlank ↔ ∀ step ∈ p.steps, step = .root ∨ step = .current := by
    simp only [isBlank, List.all_eq_true, Bool.or_eq_true, decide_eq_true_eq]
    cases absolute : p.isAbsolute with
    | true => simp [components_eq_root_steps absolute]
    | false => rcases components_eq_steps absolute with same | same <;> simp [same]
  rw [nothing, List.eq_nil_iff_forall_not_mem]
  refine forall₂_congr fun step mem => ?_
  -- a step goes upwards or has a name
  obtain rfl | ⟨name, rfl, -⟩ := mem_steps mem <;> simp

theorem isAbsolute_ofString {s : String} (h : (ofString s).isAbsolute) :
    s.toList.head? = some '/' := by
  unfold isAbsolute ofString at h
  dsimp only at h
  rw [Name.ofString_eq_flatMap] at h
  cases chars : s.toList with
  | nil => simp [chars] at h
  | cons c rest =>
    have head : (String.utf8EncodeChar c).head? = some Name.slash := by
      rw [chars, List.flatMap_cons, List.head?_append] at h
      cases bytes : String.utf8EncodeChar c with
      | nil => exact absurd bytes String.utf8EncodeChar_ne_nil
      | cons b more => simpa [bytes] using h
    rw [Name.slash_mem_utf8EncodeChar (List.mem_of_head? head)]
    rfl

/-- A slash in front of a text adds no step to the path that it spells. -/
theorem steps_ofString_slash (chars : List Char) :
    (ofString (String.ofList ('/' :: chars))).steps = (ofString (String.ofList chars)).steps := by
  have bytes : ofString (String.ofList ('/' :: chars))
      = ⟨[] ++ Name.slash :: (ofString (String.ofList chars)).bytes⟩ := by
    simp only [ofString, Name.ofString_eq_flatMap, String.toList_ofList, List.flatMap_cons]
    rfl
  rw [bytes, steps_append_slash, steps_empty, List.nil_append]

theorem steps_ofString_dropSlashes (chars : List Char) :
    (ofString (String.ofList (chars.dropWhile (· == '/')))).steps
      = (ofString (String.ofList chars)).steps := by
  induction chars with
  | nil => rfl
  | cons c rest ih =>
    rw [List.dropWhile_cons]
    split
    · rename_i slash
      rw [beq_iff_eq.mp slash, ih, steps_ofString_slash]
    · rfl

/-- The steps of a name are taken from the directory on. -/
theorem steps_logicalPath (directory : Path) (name : String) :
    (Template.Partials.logicalPath directory name).steps
      = directory.steps ++ (ofString name).steps := by
  have relative : (ofString (String.ofList (name.toList.dropWhile (· == '/')))).isAbsolute
      = false := by
    rw [Bool.eq_false_iff]
    intro absolute
    have slash := isAbsolute_ofString absolute
    have head := List.head?_dropWhile_not (· == '/') name.toList
    simp_all
  rw [Template.Partials.logicalPath, steps_join directory relative, steps_ofString_dropSlashes,
    String.ofList_toList]

/-- What a name can stand for is what the directory itself can stand for, if the name is blank, and
below the directory, if it is not. Neither has a step upwards. -/
theorem mem_candidates_logicalPath (unbroken : ∀ e ∈ extensions, '/' ∉ e.toList)
    (h : file ∈ (Template.Partials.logicalPath directory name).candidates extensions) :
    .parent ∉ directory.steps ∧ .parent ∉ (ofString name).steps ∧
    (((ofString name).isBlank ∧ file ∈ directory.candidates extensions) ∨
      (¬ (ofString name).isBlank ∧ ∃ inner : List Name, inner ≠ [] ∧
        (∀ name ∈ directory.names ++ inner, name.IsSegment) ∧
        file = ofNames (directory.names ++ inner))) := by
  obtain ⟨init, last, e, mem, downwards, names, rfl⟩ := mem_candidates h
  rw [steps_logicalPath, List.mem_append, not_or] at downwards
  have valid := isSegment_of_mem_candidate names (unbroken e mem)
  rw [names_eq_steps, steps_logicalPath, List.filterMap_append, ← names_eq_steps,
    ← names_eq_steps] at names
  refine ⟨downwards.1, downwards.2, ?_⟩
  rw [isBlank_iff, steps_eq_names downwards.2, List.map_eq_nil_iff]
  obtain none | ⟨innerInit, innerLast, innerNames⟩ := List.eq_nil_or_concat' (ofString name).names
  · -- the extension is added to the last name of the directory
    refine .inl ⟨none, ?_⟩
    rw [none, List.append_nil] at names
    have cleaned : directory.cleaned? = some (ofNames (init ++ [last])) :=
      cleaned?_eq_some_iff.mpr ⟨downwards.1, by simp [names], by rw [names]⟩
    rw [candidates, cleaned]
    exact List.mem_map.mpr ⟨e, mem, append_ofNames init last e⟩
  · -- the extension is added to the last name of the name
    refine .inr ⟨by simp [innerNames], ?_⟩
    rw [innerNames, ← List.append_assoc] at names
    obtain ⟨rfl, same⟩ := List.append_inj' names rfl
    obtain rfl : innerLast = last := by simpa using same
    rw [List.append_assoc] at valid ⊢
    exact ⟨innerInit ++ [innerLast ++ Name.ofString e], by simp, valid, rfl⟩

end Path

/-! ## Section 2: Looking up a name -/

namespace Template.Partials

variable {partials : Partials} {name : String} {file : Path}

/-- The directory is a row of names, at least one, and the extensions have no separators in them. -/
structure IsConfined (partials : Partials) : Prop where
  clean : partials.directory.isClean
  named : partials.directory.names ≠ []
  unbroken : ∀ e ∈ partials.extensions, '/' ∉ e.toList

/-- The file that a name is resolved to. -/
def file? (partials : Partials) (name : String) : Option Path :=
  partials.resources.resolve (logicalPath partials.directory name) partials.extensions

/-- What a name may be resolved to: a file below the directory, unless the name is blank. Then it
stands for the directory, and leads beside it. -/
structure Finds (partials : Partials) (name : String) (found : Option Path) : Prop where
  has : ∀ file ∈ found, partials.resources.has file
  isBelow_iff : ∀ file ∈ found, file.IsBelow partials.directory ↔ ¬ (Path.ofString name).isBlank
  beside : ∀ file ∈ found, (Path.ofString name).isBlank →
    file ∈ partials.directory.candidates partials.extensions
  /-- A name that is not blank is not found just when no file below the directory goes by it. -/
  eq_none_iff : ¬ (Path.ofString name).isBlank → (found = none ↔
    ∀ file ∈ (logicalPath partials.directory name).candidates partials.extensions,
      file.IsBelow partials.directory → ¬ partials.resources.has file)
  /-- A name that steps upwards is not found, wherever it leads. -/
  downwards : .parent ∈ (Path.ofString name).components → found = none

/-- What is beside a directory is not below it. -/
theorem IsConfined.not_isBelow (confined : partials.IsConfined)
    (h : file ∈ partials.directory.candidates partials.extensions) :
    ¬ file.IsBelow partials.directory := by
  obtain ⟨init, last, e, mem, -, names, rfl⟩ := Path.mem_candidates h
  have valid := Path.isSegment_of_mem_candidate names (confined.unbroken e mem)
  rintro ⟨inner, nonempty, below⟩
  -- it has just as many components
  have count := congrArg List.length below
  rw [Path.components_ofNames valid, Path.components_of_isClean confined.clean, names] at count
  simp at count
  exact nonempty count

/-- What is found under a name is below the directory or, for a blank name, beside it. -/
theorem IsConfined.finds (confined : partials.IsConfined) (name : String) :
    partials.Finds name (partials.file? name) := by
  -- every file that could be found is in its place
  have candidate : ∀ file ∈ (logicalPath partials.directory name).candidates partials.extensions,
      .parent ∉ (Path.ofString name).steps ∧
      (((Path.ofString name).isBlank ∧ file ∈ partials.directory.candidates partials.extensions) ∨
        (¬ (Path.ofString name).isBlank ∧ file.IsBelow partials.directory)) := by
    intro file mem
    obtain ⟨-, downwards, cases⟩ := Path.mem_candidates_logicalPath confined.unbroken mem
    refine ⟨downwards, cases.imp_right ?_⟩
    rintro ⟨notBlank, inner, nonempty, valid, rfl⟩
    refine ⟨notBlank, inner, nonempty, ?_⟩
    rw [Path.components_ofNames valid, List.map_append, Path.components_of_isClean confined.clean]
  have found : ∀ file ∈ partials.file? name,
      file ∈ (logicalPath partials.directory name).candidates partials.extensions
        ∧ partials.resources.has file :=
    fun file found => Resources.mem_candidates_of_resolve found
  constructor
  case has => exact fun file isFound => (found file isFound).2
  case isBelow_iff =>
    intro file isFound
    obtain ⟨-, ⟨blank, beside⟩ | ⟨notBlank, below⟩⟩ := candidate file (found file isFound).1
    · simp [blank, confined.not_isBelow beside]
    · simp [notBlank, below]
  case beside =>
    intro file isFound blank
    obtain ⟨-, ⟨-, beside⟩ | ⟨notBlank, -⟩⟩ := candidate file (found file isFound).1
    · exact beside
    · exact absurd blank notBlank
  case eq_none_iff =>
    -- the search fails when it fails for all that the name can stand for, which is below
    intro notBlank
    rw [file?, Resources.resolve_eq_find?, List.find?_eq_none]
    refine forall₂_congr fun file mem => ?_
    obtain ⟨-, ⟨blank, -⟩ | ⟨-, below⟩⟩ := candidate file mem
    · exact absurd blank notBlank
    · simp [below]
  case downwards =>
    intro upwards
    rw [Option.eq_none_iff_forall_not_mem]
    intro file isFound
    exact (candidate file (found file isFound).1).1 (Path.parent_mem_components.mp upwards)

theorem load_eq (partials : Partials) (name : String) :
    partials.load name = (partials.file? name).elim (.ok none) fun file =>
      ((partials.resources.readText file).map some).mapError fun _ => .unreadable name := by
  unfold load file?
  cases partials.resources.resolve (logicalPath partials.directory name) partials.extensions with
  | none => rfl
  | some file =>
    dsimp only [Option.elim_some]
    cases partials.resources.readText file <;> rfl

end Template.Partials

namespace Pipeline

variable {S : Type}

/-- The layouts of a pipeline, which are looked up as partials are. -/
def layoutPartials (p : Pipeline S) : Template.Partials where
  resources := p.resources
  directory := p.layouts
  extensions := p.extensions

theorem layoutFile_str (p : Pipeline S) (document : Path) (name : String) :
    p.layoutFile document (.str name)
      = (p.layoutPartials.file? name).elim (.error (.layoutNotFound name document)) .ok := by
  have looked : p.resolve (p.layoutPath name) = p.layoutPartials.file? name := rfl
  simp only [layoutFile, looked]
  cases p.layoutPartials.file? name <;> rfl

/-- The layout that a document names, and the partial that a template includes, are looked up below
their directories; a blank name alone leads beside them. What is not there is missing. -/
theorem names_stay_below {p : Pipeline S} {partials : Template.Partials}
    (layouts : p.layoutPartials.IsConfined) (includes : partials.IsConfined) (name : String) :
    (∃ layout, p.layoutPartials.Finds name layout ∧ ∀ document,
      p.layoutFile document (.str name)
        = layout.elim (.error (.layoutNotFound name document)) .ok) ∧
    ∃ found, partials.Finds name found ∧
      partials.load name = found.elim (.ok none) fun file =>
        ((partials.resources.readText file).map some).mapError fun _ => .unreadable name :=
  ⟨⟨_, layouts.finds name, fun document => p.layoutFile_str document name⟩,
    _, includes.finds name, partials.load_eq name⟩

/-- A layout that is found below its directory, and a partial of that name that is missing. -/
theorem names_stay_below_nested :
    let p := plain [("_layouts/a/b.html", "x"), ("a/b.html", "y"), ("_layouts.html", "z")]
    let partials : Template.Partials := { p.layoutPartials with directory := .ofString "_includes" }
    p.layoutPartials.IsConfined ∧ partials.IsConfined ∧
      p.layoutFile (.ofString "page.txt") (.str "//a/./b") = .ok (.ofString "_layouts/a/b.html") ∧
      (Path.ofString "_layouts/a/b.html").IsBelow p.layouts ∧
      partials.load "//a/./b" = .ok none := by
  intro p partials
  have layouts : p.layoutPartials.IsConfined :=
    ⟨by decide +kernel, by decide +kernel, by decide +kernel⟩
  have includes : partials.IsConfined :=
    ⟨by decide +kernel, by decide +kernel, by decide +kernel⟩
  have resolved : p.layoutFile (.ofString "page.txt") (.str "//a/./b")
      = .ok (.ofString "_layouts/a/b.html") := by
    decide +kernel
  obtain ⟨⟨layout, finds, looked⟩, -⟩ := names_stay_below layouts includes "//a/./b"
  have below : (Path.ofString "_layouts/a/b.html").IsBelow p.layouts := by
    -- the layout is the one that the lookup has found
    rw [looked] at resolved
    cases layout with
    | none => cases resolved
    | some file =>
      obtain rfl := Except.ok.inj resolved
      exact (finds.isBelow_iff _ rfl).mpr (by decide +kernel)
  exact ⟨layouts, includes, resolved, below, by decide +kernel⟩

/-- A blank name finds a file beside the directory. -/
example :
    (plain [("_layouts.html", "x")]).layoutFile (.ofString "page.txt") (.str "/.")
      = .ok (.ofString "_layouts.html") := by
  decide +kernel

end Pipeline

end Folio
