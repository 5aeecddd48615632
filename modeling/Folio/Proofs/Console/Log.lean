import Folio.Console
import Folio.Proofs.Text.Clip

/-!
# A line of the log

A line of the log begins with the name of a part, in brackets, and a space. The message has the rest
of the width of the terminal, or nothing if the name is too long. As much of the message is shown as
there is room for, in whole characters.

Main definitions:
- `heading`: what a line begins with
- `room`: how many bytes are left for a message

Main statements:
- `log_shows_longest_beginning`: what is shown of a message
-/

namespace Folio.Console

/-- What a line of the log begins with, without colours. -/
def heading (part : String) : String := "[" ++ part ++ "] "

/-- How many bytes are left for a message in a line of the log. -/
def room (width : Nat) (part : String) : Int := max 0 (width - (heading part).utf8ByteSize)

theorem utf8ByteSize_heading (part : String) : (heading part).utf8ByteSize = prefixSize part := by
  have opening : "[".utf8ByteSize = 1 := rfl
  have closing : "] ".utf8ByteSize = 2 := rfl
  rw [heading, prefixSize, String.utf8ByteSize_append, String.utf8ByteSize_append, opening, closing]
  omega

/-- A name that is too long leaves no room. -/
theorem toNat_room (width : Nat) (part : String) :
    (room width part).toNat = width - prefixSize part := by
  rw [room, utf8ByteSize_heading]
  omega

/-- Of a message in one line as much is shown as there is room for. -/
theorem isLongestWithin_fitted (width : Nat) (part : String) {message : String}
    (noBreak : '\n' ∉ message.toList) :
    Text.IsLongestWithin (room width part).toNat message (fitted width part message) := by
  have oneLine : ¬ message.toList.contains '\n' := by simpa using noBreak
  rw [fitted, if_neg oneLine, toNat_room]
  exact Text.isLongestWithin_clip _ message

/-- A text is never cut inside a character, and what is left of it is its longest beginning within
the limit. So a line of the log shows, after its heading, the longest beginning of a message that
there is room for, and the whole message if there is room for it. -/
theorem log_shows_longest_beginning :
    (∀ (limit : Nat) (s : String),
        Text.IsBoundary s (Text.lastBoundary s limit)
          ∧ ∀ t, Text.clip? limit s = some t ↔ Text.IsLongestWithin limit s t)
      ∧ ∀ (console : Console) (time part message : String), '\n' ∉ message.toList →
        ∃ shown,
          console.tell time (.log part message)
              = ([.eraseToLineEnd,
                  .print ((partStyle part).paint console.colored ("[" ++ part ++ "]") ++ " "
                    ++ shown ++ "\n")],
                console)
            ∧ Text.IsLongestWithin (room console.width part).toNat message shown
            ∧ shown.utf8ByteSize ≤ room console.width part
            ∧ (message.utf8ByteSize ≤ room console.width part → shown = message) := by
  constructor
  · intro limit s
    refine ⟨Text.isBoundary_lastBoundary s limit, ?_⟩
    intro t
    exact Text.clip?_eq_some_iff
  · intro console time part message noBreak
    have longest := isLongestWithin_fitted console.width part noBreak
    have nonneg : 0 ≤ room console.width part := Int.le_max_left _ _
    refine ⟨fitted console.width part message, rfl, longest, ?_, ?_⟩
    · have fits := longest.fits
      omega
    · intro whole
      have fits : message.utf8ByteSize ≤ (room console.width part).toNat := by omega
      -- the message is its own longest beginning, and there is only one
      exact longest.unique (Text.isLongestWithin_self fits)

theorem log_shows_longest_beginning_oneEuro :
    Text.clip? 4 "€€" = some "€"
      ∧ '\n' ∉ "€€".toList
      ∧ Text.IsLongestWithin 4 "€€" "€"
      ∧ tell { width := 12 } "12:00:00" (.log "watch" "€€")
        = ([.eraseToLineEnd, .print "[watch] €\n"], { width := 12 }) := by
  have cut : Text.clip? 4 "€€" = some "€" := by decide
  have noBreak : '\n' ∉ "€€".toList := by decide
  have longest : Text.IsLongestWithin 4 "€€" "€" :=
    ((log_shows_longest_beginning.1 4 "€€").2 "€").mp cut
  refine ⟨cut, noBreak, longest, ?_⟩
  obtain ⟨shown, told, within, -, -⟩ :=
    log_shows_longest_beginning.2 { width := 12 } "12:00:00" "watch" "€€" noBreak
  have left : (room 12 "watch").toNat = 4 := by decide
  rw [left] at within
  rw [told, within.unique longest]
  decide

end Folio.Console
