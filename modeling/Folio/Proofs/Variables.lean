import Folio.FrontMatter
import Folio.Step
import Mathlib.Data.String.Basic

/-!
# Variables as a map

Variables are entries in the order of their names. Binding a name keeps the order and changes what
that name is bound to, and no other. Overlaying variables with others that are in order binds every
name as the upper ones do, or else as the lower ones do.

Values cannot be compared, as floats are among them. Whether variables are given texts can be decided.

Main definitions:
- `Variables.IsOrdered`
- `Variables.ofTexts`: names with their texts

Main statements:
- `Variables.get?_insert`
- `Variables.get?_merge`
- `FrontMatter.eq_ok_of_texts`: front matter that is computed
-/

namespace Folio

namespace Variables

variable {vars base upper : Variables} {name other : String} {value : Value}

/-- Every name is bound once, and the entries are in the order of the names. -/
def IsOrdered (vars : Variables) : Prop := vars.entries.Pairwise fun a b => a.1 < b.1

/-! ## Section 1: One binding more -/

theorem lookup_place (name : String) (value : Value) (other : String)
    (entries : List (String × Value)) :
    lookup other (place name value entries)
      = if name = other then some value else lookup other entries := by
  induction entries with
  | nil => rfl
  | cons entry rest ih =>
    obtain ⟨k, v⟩ := entry
    unfold place
    split
    · -- the binding takes the place of an older one
      rename_i same
      subst same
      simp only [lookup]
      split <;> rfl
    · split
      · rfl
      · rename_i differs _
        simp only [lookup, ih]
        split
        · rename_i found
          rw [if_neg (found ▸ Ne.symm differs)]
        · rfl

@[simp] theorem get?_insert :
    (vars.insert name value).get? other = if name = other then some value else vars.get? other :=
  lookup_place ..

theorem mem_place {entries : List (String × Value)} {entry : String × Value}
    (mem : entry ∈ place name value entries) : entry = (name, value) ∨ entry ∈ entries := by
  induction entries with
  | nil => exact .inl (List.mem_singleton.mp mem)
  | cons first rest ih =>
    unfold place at mem
    split at mem
    · exact (List.mem_cons.mp mem).imp_right (List.mem_cons_of_mem _)
    · split at mem
      · exact List.mem_cons.mp mem
      · rcases List.mem_cons.mp mem with rfl | mem
        · exact .inr List.mem_cons_self
        · exact (ih mem).imp_right (List.mem_cons_of_mem _)

theorem IsOrdered.insert (ordered : vars.IsOrdered) (name : String) (value : Value) :
    (vars.insert name value).IsOrdered := by
  obtain ⟨entries⟩ := vars
  show (place name value entries).Pairwise fun a b => a.1 < b.1
  -- a new entry goes before the first greater name, or takes the place of its own
  induction entries with
  | nil => exact List.pairwise_singleton ..
  | cons first rest ih =>
    obtain ⟨after, others⟩ := List.pairwise_cons.mp ordered
    unfold place
    split
    · rename_i same
      subst same
      exact List.pairwise_cons.mpr ⟨after, others⟩
    · rename_i differs
      split
      · rename_i before
        refine List.pairwise_cons.mpr ⟨fun entry mem => ?_, ordered⟩
        rcases List.mem_cons.mp mem with rfl | mem
        · exact before
        · exact before.trans (after entry mem)
      · rename_i notBefore
        refine List.pairwise_cons.mpr ⟨fun entry mem => ?_, ih others⟩
        rcases mem_place mem with rfl | mem
        · exact lt_of_le_of_ne (not_lt.mp notBefore) differs
        · exact after entry mem

/-! ## Section 2: Variables over others -/

theorem isOrdered_empty : empty.IsOrdered := List.Pairwise.nil

theorem IsOrdered.merge (ordered : base.IsOrdered) (upper : Variables) :
    (merge base upper).IsOrdered := by
  obtain ⟨entries⟩ := upper
  unfold Variables.merge
  -- the upper bindings are put in one after the other
  induction entries generalizing base with
  | nil => exact ordered
  | cons first rest ih => exact ih (ordered.insert ..)

theorem isOrdered_ofList (bindings : List (String × Value)) : (ofList bindings).IsOrdered :=
  isOrdered_empty.merge ⟨bindings⟩

theorem lookup_eq_none_of_lt {entries : List (String × Value)}
    (after : ∀ entry ∈ entries, name < entry.1) : lookup name entries = none := by
  induction entries with
  | nil => rfl
  | cons first rest ih =>
    obtain ⟨differs, after⟩ := List.forall_mem_cons.mp after
    rw [lookup, if_neg (ne_of_gt differs)]
    exact ih after

/-- Where both bind a name, the upper variables win. -/
theorem get?_merge (ordered : upper.IsOrdered) :
    (merge base upper).get? name = (upper.get? name).or (base.get? name) := by
  obtain ⟨entries⟩ := upper
  unfold Variables.merge
  -- on the upper bindings, each of which has a name of its own
  induction entries generalizing base with
  | nil => rfl
  | cons first rest ih =>
    obtain ⟨k, v⟩ := first
    obtain ⟨after, others⟩ := List.pairwise_cons.mp ordered
    rw [List.foldl_cons, ih others, get?_insert]
    show _ = (lookup name ((k, v) :: rest)).or (base.get? name)
    rw [lookup]
    split
    · rename_i same
      subst same
      show (lookup k rest).or (some v) = _
      rw [lookup_eq_none_of_lt after]
      rfl
    · rfl

/-! ## Section 3: Texts -/

/-- Variables that are texts. -/
def ofTexts (texts : List (String × String)) : Variables :=
  ⟨texts.map fun (name, text) => (name, .str text)⟩

theorem eq_ofTexts_iff {texts : List (String × String)} :
    vars = ofTexts texts ↔
      vars.entries.map (fun entry => (entry.1, entry.2.asString?))
        = texts.map fun (name, text) => (name, some text) := by
  obtain ⟨entries⟩ := vars
  simp only [ofTexts, mk.injEq]
  induction entries generalizing texts with
  | nil => cases texts <;> simp
  | cons entry entries ih =>
    obtain ⟨k, v⟩ := entry
    cases texts with
    | nil => simp
    | cons first texts =>
      have value_iff : v = .str first.2 ↔ v.asString? = some first.2 := by
        cases v <;> simp [Value.asString?]
      simp only [List.map_cons, List.cons.injEq, Prod.mk.injEq, ih, value_iff]

instance (vars : Variables) (texts : List (String × String)) : Decidable (vars = ofTexts texts) :=
  decidable_of_iff' _ eq_ofTexts_iff

end Variables

/-- A document whose variables are computed to be texts. -/
theorem FrontMatter.eq_ok_of_texts {parsed : Except FrontMatterError FrontMatter}
    (texts : List (String × String)) {content : String}
    (h : parsed.toOption.any fun fm => fm.vars = .ofTexts texts ∧ fm.content = content) :
    parsed = .ok ⟨.ofTexts texts, content⟩ := by
  obtain ⟨fm, same, isTexts, rfl⟩ := exists_ok_of_any h
  rw [same, ← isTexts]

end Folio
