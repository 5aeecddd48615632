import Folio.Console
import Mathlib.Data.List.Basic
import Mathlib.Logic.Function.Iterate

/-!
# A screen

A screen that does not wrap lines and has room for all of them: lines of characters and a cursor. A
line break begins a new line, any other character takes a cell, those of the sequences that set a
style among them. A command to move up by no lines is one to move up by one, as terminals have it.

After whole lines have been shown, the cursor is at the beginning of an empty line. Moving up from
there and erasing takes lines away from the end, and showing a text adds its lines.

Main definitions:
- `Screen`, `Screen.run`: what commands do to a screen
- `Screen.fresh`: a screen whose cursor is below its lines
- `linesOf`: the lines of a text

Main statements: `Screen.step_print_fresh`, `Screen.run_erase_fresh`.
-/

namespace Folio.Console

/-! ## Section 1: Lines -/

/-- A line on a screen. -/
abbrev Line := List Char

/-- The lines of a text. There is one more than there are line breaks. -/
def linesOf (text : List Char) : List Line := text.splitOn '\n'

@[simp] theorem linesOf_nil : linesOf [] = [[]] := rfl

theorem linesOf_break (rest : List Char) : linesOf ('\n' :: rest) = [] :: linesOf rest := by
  simp [linesOf, List.splitOn, List.splitOnP_cons_eq_if_modifyHead]

theorem linesOf_cons {c : Char} (noBreak : c ≠ '\n') (rest : List Char) :
    linesOf (c :: rest) = (linesOf rest).modifyHead (c :: ·) := by
  simp [linesOf, List.splitOn, List.splitOnP_cons_eq_if_modifyHead, noBreak]

theorem linesOf_ne_nil (text : List Char) : linesOf text ≠ [] := List.splitOn_ne_nil _ _

theorem modifyHead_nil_append (lines : List Line) : lines.modifyHead ([] ++ ·) = lines := by
  cases lines <;> rfl

theorem length_linesOf (text : List Char) : (linesOf text).length = text.count '\n' + 1 := by
  induction text with
  | nil => rfl
  | cons c rest ih =>
    by_cases isBreak : c = '\n'
    · subst isBreak
      simp [linesOf_break, ih]
    · simp [linesOf_cons isBreak, ih, isBreak]

/-! ## Section 2: Screens -/

/-- What stands on a screen, and where the cursor is. -/
structure Screen where
  /-- The lines above that of the cursor, the topmost first. -/
  above : List Line
  /-- The line of the cursor. -/
  line : Line
  /-- How many cells stand before the cursor. -/
  column : Nat
  /-- The lines below that of the cursor. -/
  below : List Line
deriving DecidableEq

namespace Screen

/-- Show a character. -/
def put (screen : Screen) (c : Char) : Screen :=
  if c = '\n' then
    { above := screen.above ++ [screen.line]
      line := screen.below.headD []
      column := 0
      below := screen.below.tail }
  else
    { screen with
      line := (screen.line.rightpad (screen.column + 1) ' ').set screen.column c
      column := screen.column + 1 }

/-- Move the cursor up by a line, unless it is in the topmost one. -/
def up (screen : Screen) : Screen :=
  match screen.above.getLast? with
  | none => screen
  | some line =>
      { screen with above := screen.above.dropLast, line, below := screen.line :: screen.below }

/-- Erase the rest of the line. -/
def eraseToLineEnd (screen : Screen) : Screen :=
  { screen with line := screen.line.take screen.column }

/-- What a command does to a screen. -/
def step (screen : Screen) : Command → Screen
  | .print text => text.toList.foldl put screen
  | .eraseToLineEnd => screen.eraseToLineEnd
  | .eraseBelow => { screen.eraseToLineEnd with below := [] }
  | .moveUp lines => up^[max lines 1] screen

/-- What commands, one after the other, do to a screen. -/
def run (screen : Screen) (commands : List Command) : Screen := commands.foldl step screen

@[simp] theorem run_nil (screen : Screen) : screen.run [] = screen := rfl

theorem run_append (screen : Screen) (first later : List Command) :
    screen.run (first ++ later) = (screen.run first).run later := List.foldl_append

/-- A screen whose cursor is at the beginning of an empty line below all others. -/
def fresh (lines : List Line) : Screen := { above := lines, line := [], column := 0, below := [] }

theorem fresh_injective {lines lines' : List Line} (h : fresh lines = fresh lines') :
    lines = lines' := congrArg above h

/-! ## Section 3: Showing and removing lines -/

/-- A character at the end of the last line. -/
theorem put_end (above : List Line) (line : Line) {c : Char} (noBreak : c ≠ '\n') :
    put { above, line, column := line.length, below := [] } c
      = { above, line := line ++ [c], column := (line ++ [c]).length, below := [] } := by
  simp [put, noBreak, List.rightpad]

/-- Showing a text and a line break, with the cursor at the end of the last line. -/
theorem foldl_put (above : List Line) (line : Line) (text : List Char) :
    (text ++ ['\n']).foldl put { above, line, column := line.length, below := [] }
      = fresh (above ++ (linesOf text).modifyHead (line ++ ·)) := by
  -- on the text, for what stands before it
  induction text generalizing above line with
  | nil => simp [put, fresh]
  | cons c rest ih =>
    rw [List.cons_append, List.foldl_cons]
    by_cases isBreak : c = '\n'
    · subst isBreak
      have begun := ih (above ++ [line]) []
      rw [modifyHead_nil_append] at begun
      have broken : put { above, line, column := line.length, below := [] } '\n'
          = { above := above ++ [line], line := [], column := ([] : Line).length, below := [] } := by
        simp [put]
      rw [broken, begun, linesOf_break]
      simp
    · rw [put_end above line isBreak, ih, linesOf_cons isBreak, List.modifyHead_modifyHead]
      congr 2
      simp [Function.comp_def]

/-- A text that is shown adds its lines. -/
theorem step_print_fresh (lines : List Line) (text : String) :
    (fresh lines).step (.print (text ++ "\n")) = fresh (lines ++ linesOf text.toList) := by
  have shown := foldl_put lines [] text.toList
  rw [modifyHead_nil_append] at shown
  rw [step, String.toList_append]
  exact shown

/-- Erasing below the cursor, after it was moved up from the beginning of a line. -/
theorem step_eraseBelow_up (count : Nat) {screen : Screen} (start : screen.column = 0) :
    (up^[count] screen).step .eraseBelow
      = fresh (screen.above.take (screen.above.length - count)) := by
  -- on how far the cursor is moved; it stays at the beginning of a line
  induction count generalizing screen with
  | zero => simp [step, eraseToLineEnd, fresh, start]
  | succ count ih =>
    rw [Function.iterate_succ_apply]
    obtain empty | ⟨front, last, split⟩ := List.eq_nil_or_concat' screen.above
    · have same : up screen = screen := by simp [up, empty]
      rw [same, ih start, empty]
      simp
    · have moved : up screen
          = { screen with above := front, line := last, below := screen.line :: screen.below } := by
        simp [up, split]
      have stays : (up screen).column = 0 := by
        rw [moved]
        exact start
      rw [ih stays, moved, split]
      congr 1
      simp only [List.length_append, List.length_singleton]
      rw [List.take_append_of_le_length (by omega)]
      congr 1
      omega

/-- Moving up and erasing takes lines away. -/
theorem run_erase_fresh (lines : List Line) (count : Nat) :
    (fresh lines).run [.moveUp count, .eraseBelow]
      = fresh (lines.take (lines.length - max count 1)) :=
  step_eraseBelow_up (max count 1) rfl

end Screen

end Folio.Console
