import Folio.Text.Clip
import Mathlib.Data.List.Infix

/-!
# The longest beginning that fits

The beginnings of a text are ordered by how many bytes they take, and each of them ends at an offset
between characters. So the last such offset up to a limit is the end of the longest beginning that
takes no more bytes than that.

Main definitions:
- `Text.IsLongestWithin`: the longest beginning of a text that fits

Main statements:
- `Text.beginning?_eq_some_iff`: the text up to an offset
- `Text.le_lastBoundary`: looking backwards passes over no offset between characters
- `Text.clip?_eq_some_iff`: a text cut to a size
-/

namespace Folio.Text

variable {s t u : String} {limit offset place : Nat}

/-! ## Section 1: Beginnings of a text -/

theorem begins_iff : t.toList <+: s.toList ↔ ∃ rest, s = t ++ rest := by
  constructor
  · rintro ⟨rest, whole⟩
    refine ⟨String.ofList rest, ?_⟩
    apply String.toList_injective
    rw [String.toList_append, String.toList_ofList, whole]
  · rintro ⟨rest, rfl⟩
    rw [String.toList_append]
    exact List.prefix_append _ _

/-- A beginning that takes as many bytes as the text is all of it. -/
theorem eq_of_begins (begins : t.toList <+: s.toList) (all : s.utf8ByteSize ≤ t.utf8ByteSize) :
    t = s := by
  obtain ⟨rest, rfl⟩ := begins_iff.mp begins
  rw [String.utf8ByteSize_append] at all
  have empty : rest = "" := by
    apply String.utf8ByteSize_eq_zero_iff.mp
    omega
  rw [empty, String.append_empty]

/-- Of two beginnings, one that takes no more bytes is a beginning of the other. -/
theorem begins_of_begins (begins : t.toList <+: s.toList) (begins' : u.toList <+: s.toList)
    (shorter : u.utf8ByteSize ≤ t.utf8ByteSize) : u.toList <+: t.toList := by
  -- two beginnings of one text never part, so the longer one goes on after the shorter one
  rcases List.prefix_or_prefix_of_prefix begins' begins with inside | around
  · exact inside
  · rw [eq_of_begins around shorter]

/-- No character is cut just where a beginning ends. -/
theorem isBoundary_iff :
    IsBoundary s offset ↔ ∃ t : String, t.toList <+: s.toList ∧ t.utf8ByteSize = offset := by
  unfold IsBoundary
  rw [String.Pos.Raw.isValid_iff_exists_append]
  constructor
  · rintro ⟨t, rest, whole, ends⟩
    refine ⟨t, begins_iff.mpr ⟨rest, whole⟩, ?_⟩
    exact (congrArg String.Pos.Raw.byteIdx ends).symm
  · rintro ⟨t, begins, rfl⟩
    obtain ⟨rest, whole⟩ := begins_iff.mp begins
    exact ⟨t, rest, whole, rfl⟩

/-- The text up to an offset is the beginning that takes so many bytes. -/
theorem beginning?_eq_some_iff :
    beginning? s offset = some t ↔ t.toList <+: s.toList ∧ t.utf8ByteSize = offset := by
  unfold beginning?
  constructor
  · intro cut
    split at cut
    case isTrue boundary =>
      cases cut
      have splits := (s.pos ⟨offset⟩ boundary).splits
      refine ⟨begins_iff.mpr ⟨_, splits.eq_append⟩, ?_⟩
      exact (congrArg String.Pos.Raw.byteIdx splits.offset_eq_rawEndPos).symm
    case isFalse => cases cut
  · rintro ⟨begins, rfl⟩
    have boundary : IsBoundary s t.utf8ByteSize := isBoundary_iff.mpr ⟨t, begins, rfl⟩
    obtain ⟨rest, whole⟩ := begins_iff.mp begins
    rw [dif_pos boundary, Option.some_inj, String.copy_sliceTo_eq_iff_exists_splits]
    exact ⟨rest, whole, rfl⟩

/-! ## Section 2: Looking backwards -/

/-- Where no character is cut, looking backwards goes no further. -/
theorem lastBoundary_of_isBoundary (boundary : IsBoundary s offset) :
    lastBoundary s offset = offset := by
  cases offset with
  | zero => rfl
  | succ offset => rw [lastBoundary, if_pos boundary]

/-- Inside a character, it goes one byte back. -/
theorem lastBoundary_succ (inside : ¬ IsBoundary s (offset + 1)) :
    lastBoundary s (offset + 1) = lastBoundary s offset := by
  rw [lastBoundary, if_neg inside]

theorem lastBoundary_le (s : String) (offset : Nat) : lastBoundary s offset ≤ offset := by
  induction offset with
  | zero => exact Nat.le_refl 0
  | succ offset ih =>
    by_cases boundary : IsBoundary s (offset + 1)
    · rw [lastBoundary_of_isBoundary boundary]
    · rw [lastBoundary_succ boundary]
      exact Nat.le_succ_of_le ih

/-- No offset between characters is passed over. -/
theorem le_lastBoundary (boundary : IsBoundary s place) (before : place ≤ offset) :
    place ≤ lastBoundary s offset := by
  -- on the offset; a step back is only made from inside a character, so not from `place`
  induction offset with
  | zero => exact before
  | succ offset ih =>
    by_cases here : IsBoundary s (offset + 1)
    · rw [lastBoundary_of_isBoundary here]
      exact before
    · rw [lastBoundary_succ here]
      have other : place ≠ offset + 1 := by
        rintro rfl
        exact here boundary
      apply ih
      omega

/-! ## Section 3: Cutting to a size -/

/-- The longest beginning of a text, of whole characters, that takes at most so many bytes. -/
structure IsLongestWithin (limit : Nat) (s t : String) : Prop where
  begins : t.toList <+: s.toList
  fits : t.utf8ByteSize ≤ limit
  /-- Every beginning that fits is a beginning of this one. -/
  longest : ∀ u : String, u.toList <+: s.toList → u.utf8ByteSize ≤ limit → u.toList <+: t.toList

/-- Two beginnings that are longest are beginnings of each other. -/
theorem IsLongestWithin.unique (first : IsLongestWithin limit s t)
    (second : IsLongestWithin limit s u) : t = u := by
  apply String.toList_injective
  have inside := second.longest t first.begins first.fits
  have around := first.longest u second.begins second.fits
  exact inside.eq_of_length_le around.length_le

/-- A text that fits is its own longest beginning. -/
theorem isLongestWithin_self (fits : s.utf8ByteSize ≤ limit) : IsLongestWithin limit s s where
  begins := List.prefix_rfl
  fits := fits
  longest := fun _ begins _ => begins

/-- The beginning that ends at the last offset between characters is the longest. -/
theorem isLongestWithin_of_beginning? (cut : beginning? s (lastBoundary s limit) = some t) :
    IsLongestWithin limit s t := by
  obtain ⟨begins, size⟩ := beginning?_eq_some_iff.mp cut
  refine ⟨begins, ?_, ?_⟩
  · rw [size]
    exact lastBoundary_le s limit
  · -- another beginning ends between characters as well, so it is not passed over
    intro u begins' fits
    have ends : IsBoundary s u.utf8ByteSize := isBoundary_iff.mpr ⟨u, begins', rfl⟩
    apply begins_of_begins begins begins'
    rw [size]
    exact le_lastBoundary ends fits

theorem isLongestWithin_of_clip? (cut : clip? limit s = some t) : IsLongestWithin limit s t := by
  unfold clip? at cut
  split at cut
  case isTrue fits =>
    cases cut
    exact isLongestWithin_self fits
  case isFalse => exact isLongestWithin_of_beginning? cut

theorem clip?_eq_some (limit : Nat) (s : String) : clip? limit s = some (clip limit s) :=
  (Option.some_get _).symm

theorem isLongestWithin_clip (limit : Nat) (s : String) : IsLongestWithin limit s (clip limit s) :=
  isLongestWithin_of_clip? (clip?_eq_some limit s)

/-- A text is cut to its longest beginning that fits, and no text fails to be cut. -/
theorem clip?_eq_some_iff : clip? limit s = some t ↔ IsLongestWithin limit s t := by
  constructor
  · exact isLongestWithin_of_clip?
  · intro longest
    rw [clip?_eq_some, (isLongestWithin_clip limit s).unique longest]

example : clip 3 "a€b" = "a" ∧ clip 4 "a€b" = "a€" := by decide

end Folio.Text
