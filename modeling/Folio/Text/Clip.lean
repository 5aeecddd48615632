/-!
# Texts cut to a size

A text is cut at an offset in its bytes. There is nothing to show of a text that is cut inside a
character, so a text with too many bytes is cut at the last offset up to the limit that is between
characters. It is looked for backwards, byte by byte. The beginning of the text is between
characters, so there is one.

Main definitions:
- `Text.IsBoundary`, `Text.beginning?`: where a text can be cut, and the text up to there
- `Text.lastBoundary`: looking for such an offset
- `Text.clip?`, `Text.clip`: a text cut to a size
-/

namespace Folio.Text

/-- An offset at which no character is cut: one begins there, or the text ends there. -/
def IsBoundary (s : String) (offset : Nat) : Prop := (String.Pos.Raw.mk offset).IsValid s

instance (s : String) (offset : Nat) : Decidable (IsBoundary s offset) :=
  inferInstanceAs (Decidable ((String.Pos.Raw.mk offset).IsValid s))

/-- The text up to an offset, unless a character is cut there. -/
def beginning? (s : String) (offset : Nat) : Option String :=
  if boundary : IsBoundary s offset then some (s.sliceTo (s.pos ⟨offset⟩ boundary)).copy else none

/-- The last offset at which no character is cut, from an offset backwards. -/
def lastBoundary (s : String) : Nat → Nat
  | 0 => 0
  | offset + 1 => if IsBoundary s (offset + 1) then offset + 1 else lastBoundary s offset

/-- Looking backwards ends between characters. -/
theorem isBoundary_lastBoundary (s : String) (offset : Nat) :
    IsBoundary s (lastBoundary s offset) := by
  induction offset with
  | zero => exact String.Pos.Raw.isValid_zero
  | succ offset ih =>
    unfold lastBoundary
    split
    case isTrue boundary => exact boundary
    case isFalse => exact ih

/-- A text cut so that it takes at most so many bytes, unless a character is cut. -/
def clip? (limit : Nat) (s : String) : Option String :=
  if s.utf8ByteSize ≤ limit then some s else beginning? s (lastBoundary s limit)

/-- No character is cut. -/
theorem isSome_clip? (limit : Nat) (s : String) : (clip? limit s).isSome := by
  unfold clip?
  split
  case isTrue => rfl
  case isFalse =>
    rw [beginning?, dif_pos (isBoundary_lastBoundary s limit)]
    rfl

/-- A text cut so that it takes at most so many bytes. -/
def clip (limit : Nat) (s : String) : String := (clip? limit s).get (isSome_clip? limit s)

end Folio.Text
