import Mathlib.Data.List.Lex
import Mathlib.Order.Basic
import Folio.Proofs.Path.Steps

/-!
# The order of paths

Paths are compared component by component, components by their kind and then by their bytes. Written
as numbers, this is the order of lists, so paths are in a linear order once paths with the same
components count as one.

Main definitions:
- `Component.key`, `Path.key`: what paths are ordered by

Main statements:
- `Path.lt_iff_key`, `Path.equiv_iff_key`: the order of paths is that of their keys
- `Path.lt_trans`, `Path.lt_or_equiv_or_gt`: the order is linear up to equivalence
-/

namespace Folio

/-! ## Section 1: Keys -/

/-- The bytes of a name, as numbers. -/
def Name.key (name : Name) : List Nat := name.map UInt8.toNat

/-- The kind of a component, and the bytes of its name. Only names have more than a kind, so the kinds
decide before bytes are compared. -/
def Component.key (c : Component) : List Nat := c.rank :: (c.name?.getD []).key

theorem Name.key_injective : Function.Injective Name.key :=
  List.map_injective_iff.mpr fun _ _ => UInt8.toNat_inj.mp

/-- The order of names is that of their bytes. -/
theorem Name.lt_iff_key {a b : Name} : Name.lt a b ↔ a.key < b.key := by
  induction a generalizing b with
  | nil => cases b <;> simp [Name.lt, Name.key]
  | cons x a ih =>
    cases b with
    | nil => simp [Name.lt, Name.key]
    | cons y b =>
      simp only [Name.key, List.map_cons, List.cons_lt_cons_iff, UInt8.toNat_inj] at ih ⊢
      by_cases same : x = y
      · simp [Name.lt, same, ih]
      · simp [Name.lt, same, UInt8.lt_iff_toNat_lt]

namespace Component

theorem key_injective : Function.Injective key := by
  intro a b same
  obtain ⟨rank, name⟩ := List.cons.inj same
  have names := Name.key_injective name
  cases a <;> cases b <;> simp_all [Component.rank, name?]

/-- Components are ordered by their kind, then by their names. -/
theorem lt_iff_key {a b : Component} : a.lt b ↔ a.key < b.key := by
  cases a <;> cases b <;>
    simp [Component.lt, key, Component.rank, name?, Name.lt_iff_key, List.cons_lt_cons_iff, Name.key]

end Component

namespace Path

variable {p q r : Path}

/-- The keys of the components of a path. -/
def key (p : Path) : List (List Nat) := p.components.map Component.key

theorem componentsLt_iff_key {a b : List Component} :
    componentsLt a b ↔ a.map Component.key < b.map Component.key := by
  induction a generalizing b with
  | nil => cases b <;> simp [componentsLt]
  | cons x a ih =>
    cases b with
    | nil => simp [componentsLt]
    | cons y b =>
      simp only [List.map_cons, List.cons_lt_cons_iff, Component.key_injective.eq_iff]
      -- the first components that differ decide
      by_cases same : x = y
      · simp [componentsLt, same, ih]
      · simp [componentsLt, same, Component.lt_iff_key]

theorem lt_iff_key : p.lt q ↔ p.key < q.key := componentsLt_iff_key

theorem equiv_iff_key : p.equiv q ↔ p.key = q.key := by
  rw [equiv_iff, key, key, (List.map_injective_iff.mpr Component.key_injective).eq_iff]

/-! ## Section 2: A linear order up to equivalence -/

theorem lt_trans (first : p.lt q) (second : q.lt r) : p.lt r :=
  lt_iff_key.mpr ((lt_iff_key.mp first).trans (lt_iff_key.mp second))

theorem not_equiv_of_lt (less : p.lt q) : ¬ p.equiv q :=
  fun same => (lt_iff_key.mp less).ne (equiv_iff_key.mp same)

theorem lt_or_equiv_or_gt (p q : Path) : p.lt q ∨ p.equiv q ∨ q.lt p := by
  simp only [lt_iff_key, equiv_iff_key]
  exact lt_trichotomy p.key q.key

theorem equiv_refl (p : Path) : p.equiv p := equiv_iff.mpr rfl

theorem equiv_symm (same : p.equiv q) : q.equiv p := equiv_iff.mpr (equiv_iff.mp same).symm

end Path

end Folio
