import Folio.Proofs.Console.Screen
import Folio.Proofs.Text.Replace

/-!
# The status of a watch on a screen

A status replaces the one before it, unless that one was detached. To remove a status, the cursor
moves up by as many lines as the status took, as far as the number fits in sixteen bits. So every
status that is replaced goes as a whole just if it has fewer lines than that. Of a longer one its
first lines stay, and the lines that were there before all of them stay in any case.

Main definitions:
- `StatusCall`: a status is shown or detached
- `StatusCall.lines`: the lines of a status
- `standing`: the lines of every status that is not replaced
- `remaining`: the lines that are on the screen in the end

Main statements:
- `call_eq`: what one call tells the terminal
- `run_toldBy_eq_standing_iff`: what all calls leave on the screen
-/

namespace Folio

namespace Console

/-! ## Section 1: How many lines a status takes -/

/-- Painting a text that is in one line leaves it in one line. -/
theorem Style.noBreak_paint (colored : Bool) (style : Style) {s : String}
    (noBreak : '\n' ∉ s.toList) : '\n' ∉ (style.paint colored s).toList := by
  unfold paint
  split
  · have start : '\n' ∉ style.start.toList := by cases style <;> decide
    have nonempty : plain.toList ≠ [] := by decide
    have ended : '\n' ∉ plain.toList := by decide
    intro isBreak
    simp only [String.toList_append, Text.replaceAll_eq nonempty, String.toList_ofList,
      List.mem_append] at isBreak
    rcases isBreak with (inStart | inside) | inEnd
    · exact start inStart
    · rcases Text.mem_replaceIn nonempty inside with inNew | inText
      · rcases List.mem_append.mp inNew with inEnd | inStart
        · exact ended inEnd
        · exact start inStart
      · exact noBreak inText
    · exact ended inEnd
  · exact noBreak

/-- A status takes as many lines as its message. -/
theorem length_linesOf_block (colored : Bool) {time symbol : String} (message : String)
    (noBreak : '\n' ∉ time.toList) (noBreak' : '\n' ∉ symbol.toList) :
    (linesOf (block colored time symbol message).toList).length = lineCount message := by
  have stamped : '\n' ∉ (Style.dimmed.paint colored ("[" ++ time ++ "]")).toList := by
    apply Style.noBreak_paint
    simpa using noBreak
  rw [length_linesOf, lineCount, block]
  simp [List.count_eq_zero_of_not_mem stamped, List.count_eq_zero_of_not_mem noBreak']

/-! ## Section 2: Calls -/

/-- A time of day as it is shown, in one line. -/
structure TimeOfDay where
  text : String
  noBreak : '\n' ∉ text.toList

/-- A status of a watch is shown, or the one that is shown is detached. -/
inductive StatusCall where
  | success (time : TimeOfDay) (message : String)
  | failure (time : TimeOfDay) (summary detail : String)
  | detach

namespace StatusCall

/-- What the user is told. -/
def notice : StatusCall → Notice
  | .success _ message => .success message
  | .failure _ summary detail => .failure summary detail
  | .detach => .detach

/-- When the user is told. -/
def time : StatusCall → String
  | .success time _ | .failure time _ _ => time.text
  | .detach => ""

/-- The text of a status. -/
def text? (colored : Bool) : StatusCall → Option String
  | .success time message =>
      some (block colored time.text (Style.green.paint colored "✓") message)
  | .failure time summary detail =>
      some (block colored time.text (Style.red.paint colored "✗") (failureMessage summary detail))
  | .detach => none

/-- The lines of a status. Only detaching takes none. -/
def lines (colored : Bool) (call : StatusCall) : List Line :=
  match call.text? colored with
  | some text => linesOf text.toList
  | none => []

theorem lines_eq_nil_iff {colored : Bool} {call : StatusCall} :
    call.lines colored = [] ↔ call.text? colored = none := by
  unfold lines
  cases call.text? colored with
  | none => simp
  | some text => simp [linesOf_ne_nil]

end StatusCall

/-- What the terminal is told by a call, and the terminal after it. -/
def call (console : Console) (call : StatusCall) : List Command × Console :=
  console.tell call.time call.notice

/-- What the terminal is told by a status that replaces lines. -/
def replacing (lines : List Line) : List Command :=
  if lines = [] then [] else [.moveUp (lines.length % moveLimit), .eraseBelow]

/-- A call removes what the terminal holds the count of, and shows its text. The terminal holds the
count of its lines then. -/
theorem call_eq (console : Console) (status : StatusCall) :
    console.call status
      = (match status.text? console.colored with
          | some text => console.removal ++ [.print (text ++ "\n")]
          | none => [],
        { console with lines := (status.lines console.colored).length }) := by
  have tick : '\n' ∉ (Style.green.paint console.colored "✓").toList :=
    Style.noBreak_paint _ _ (by decide)
  have cross : '\n' ∉ (Style.red.paint console.colored "✗").toList :=
    Style.noBreak_paint _ _ (by decide)
  cases status with
  | success time message =>
    have counted := length_linesOf_block console.colored message time.noBreak tick
    simp [call, StatusCall.time, StatusCall.notice, StatusCall.text?, StatusCall.lines, tell,
      display, counted]
  | failure time summary detail =>
    have counted := length_linesOf_block console.colored (failureMessage summary detail)
      time.noBreak cross
    simp [call, StatusCall.time, StatusCall.notice, StatusCall.text?, StatusCall.lines, tell,
      display, counted]
  | detach => rfl

/-- The terminal after calls, one after the other. -/
def afterCalls (console : Console) (calls : List StatusCall) : Console :=
  calls.foldl (fun console status => (console.call status).2) console

/-- What the terminal is told by calls, one after the other. -/
def toldBy (console : Console) : List StatusCall → List Command
  | [] => []
  | status :: rest =>
      (console.call status).1 ++ toldBy (console.call status).2 rest

/-- The lines that the next status replaces: those of the last call. -/
def replaceable (colored : Bool) (calls : List StatusCall) : List Line :=
  match calls.getLast? with
  | some status => status.lines colored
  | none => []

/-- A terminal that has seen calls holds the count of the lines that can be replaced. -/
theorem afterCalls_eq (console : Console) (none : console.lines = 0) (calls : List StatusCall) :
    console.afterCalls calls
      = { console with lines := (replaceable console.colored calls).length } := by
  -- only the last call counts
  induction calls using List.reverseRecOn with
  | nil => simp [afterCalls, replaceable, ← none]
  | append_singleton before status ih =>
    have last : console.afterCalls (before ++ [status])
        = ((console.afterCalls before).call status).2 := by simp [afterCalls]
    rw [last, ih, call_eq]
    simp [replaceable]

theorem removal_of_lines (console : Console) {lines : List Line}
    (counted : console.lines = lines.length) : console.removal = replacing lines := by
  unfold removal replacing
  rw [counted]
  by_cases empty : lines = [] <;> simp [empty]

/-! ## Section 3: What stays on the screen -/

/-- The lines of every call, with whether the next call shows something in their place. -/
def entries (colored : Bool) : List StatusCall → List (List Line × Bool)
  | [] => []
  | status :: rest =>
      (status.lines colored, rest.head?.any fun next => (next.text? colored).isSome)
        :: entries colored rest

/-- The lines of every status that is not replaced. -/
def standing (entries : List (List Line × Bool)) : List Line :=
  entries.flatMap fun (lines, replaced) => if replaced then [] else lines

/-- What is left of lines that are replaced. -/
def leftOver (lines : List Line) : List Line :=
  lines.take (lines.length - max (lines.length % moveLimit) 1)

/-- The lines of every status, and of one that is replaced those that are left. -/
def remaining (entries : List (List Line × Bool)) : List Line :=
  entries.flatMap fun (lines, replaced) => if replaced then leftOver lines else lines

/-- Lines that are replaced all go just if their number fits. -/
theorem leftOver_eq_nil_iff {lines : List Line} :
    leftOver lines = [] ↔ lines.length < moveLimit := by
  unfold leftOver moveLimit
  rw [List.take_eq_nil_iff, ← List.length_eq_zero_iff]
  omega

theorem flatMap_eq_iff_of_length_le {α β : Type} {f g : α → List β}
    (shorter : ∀ a, (g a).length ≤ (f a).length) (as : List α) :
    as.flatMap f = as.flatMap g ↔ ∀ a ∈ as, f a = g a := by
  have shorter' (as : List α) : (as.flatMap g).length ≤ (as.flatMap f).length := by
    induction as with
    | nil => simp
    | cons a rest ih => simpa using Nat.add_le_add (shorter a) ih
  constructor
  · intro same
    -- part by part, since none is longer than its counterpart
    induction as with
    | nil => simp
    | cons a rest ih =>
      have sizes := congrArg List.length same
      simp only [List.flatMap_cons, List.length_append] at same sizes
      have first : (f a).length = (g a).length := by
        have := shorter a
        have := shorter' rest
        omega
      obtain ⟨head, tail⟩ := List.append_inj same first
      exact List.forall_mem_cons.mpr ⟨head, ih tail⟩
  · intro same
    exact List.flatMap_congr same

/-- What remains is what stands just if the lines that are replaced all fit. -/
theorem remaining_eq_standing_iff {entries : List (List Line × Bool)} :
    remaining entries = standing entries
      ↔ ∀ entry ∈ entries, entry.2 = true → entry.1.length < moveLimit := by
  unfold remaining standing
  rw [flatMap_eq_iff_of_length_le]
  · refine forall₂_congr ?_
    rintro ⟨lines, replaced⟩ -
    cases replaced with
    | false => simp
    | true => simpa using leftOver_eq_nil_iff
  · rintro ⟨lines, replaced⟩
    cases replaced <;> simp

/-- Removing lines takes them from the end of the screen, as far as their number fits. -/
theorem run_replacing (old lines : List Line) :
    (Screen.fresh (old ++ lines)).run (replacing lines) = .fresh (old ++ leftOver lines) := by
  unfold replacing
  split
  · rename_i empty
    simp [empty, leftOver]
  · rename_i nonempty
    have some : 0 < lines.length := List.length_pos_iff.mpr nonempty
    have most : max (lines.length % moveLimit) 1 ≤ lines.length :=
      Nat.max_le.mpr ⟨Nat.mod_le _ _, some⟩
    rw [Screen.run_erase_fresh, leftOver, List.length_append, Nat.add_sub_assoc most,
      List.take_length_add_append]

/-- What calls leave on a screen whose last lines can be replaced. -/
theorem run_toldBy (console : Console) (old lines : List Line)
    (counted : console.lines = lines.length) (calls : List StatusCall) :
    (Screen.fresh (old ++ lines)).run (console.toldBy calls)
      = .fresh (old
          ++ (if calls.head?.any fun next => (next.text? console.colored).isSome then leftOver lines
            else lines)
          ++ remaining (entries console.colored calls)) := by
  -- on the calls, for the lines that the call before has left
  induction calls generalizing console old lines with
  | nil => simp [toldBy, entries, remaining]
  | cons status rest ih =>
    have removed := console.removal_of_lines counted
    rw [toldBy, Screen.run_append, call_eq]
    dsimp only
    cases shown : status.text? console.colored with
    | none =>
      -- nothing is told, and nothing can be replaced from now on
      have nothing : status.lines console.colored = [] := StatusCall.lines_eq_nil_iff.mpr shown
      have later := ih { console with lines := 0 } (old ++ lines) [] rfl
      rw [List.append_nil] at later
      simp only [nothing, List.length_nil, Screen.run_nil]
      rw [later]
      simp [entries, remaining, nothing, shown, leftOver]
    | some text =>
      have own : status.lines console.colored = linesOf text.toList := by
        rw [StatusCall.lines, shown]
      have later := ih { console with lines := (linesOf text.toList).length }
        (old ++ leftOver lines) (linesOf text.toList) rfl
      have printed : (Screen.fresh (old ++ leftOver lines)).run [.print (text ++ "\n")]
          = .fresh (old ++ leftOver lines ++ linesOf text.toList) :=
        Screen.step_print_fresh _ text
      rw [removed, Screen.run_append, run_replacing, printed, own]
      rw [later]
      simp [entries, remaining, own, shown]

/-- Whatever is shown and detached, in whatever order: each status first moves the cursor up by the
number of lines of the one before, as far as it fits in sixteen bits, if that one was not detached.
What is on the screen then are the lines from before and those of every status that was not replaced,
and nothing else, just if every status that was replaced had fewer than 65536 lines. Of a longer one
some lines are left, but no other line is ever erased. -/
theorem run_toldBy_eq_standing_iff (width : Nat) (colored : Bool) (calls : List StatusCall)
    (old : List Line) :
    let console : Console := { width, colored }
    let entries := entries colored calls
    (∀ status, ((console.afterCalls calls).call status).1
        = match status.text? colored with
          | some text => replacing (replaceable colored calls) ++ [.print (text ++ "\n")]
          | none => [])
      ∧ (Screen.fresh old).run (console.toldBy calls) = .fresh (old ++ remaining entries)
      ∧ ((Screen.fresh old).run (console.toldBy calls) = .fresh (old ++ standing entries)
        ↔ ∀ entry ∈ entries, entry.2 = true → entry.1.length < moveLimit) := by
  intro console entries
  have screen : (Screen.fresh old).run (console.toldBy calls)
      = .fresh (old ++ remaining entries) := by
    have left := run_toldBy console old [] rfl calls
    simpa [leftOver, List.append_nil] using left
  refine ⟨fun status => ?_, screen, ?_⟩
  · rw [afterCalls_eq console rfl, call_eq]
    dsimp only
    cases status.text? colored with
    | none => rfl
    | some text => rw [removal_of_lines _ rfl]
  · rw [screen, ← remaining_eq_standing_iff]
    constructor
    · intro same
      exact List.append_cancel_left (Screen.fresh_injective same)
    · intro same
      rw [same]

example :
    let time : TimeOfDay := ⟨"12:00:00", by decide⟩
    let calls := [.success time "a", .detach, .failure time "b" "c\nd", .success time "e"]
    (Screen.fresh ["old".toList]).run (toldBy {} calls)
      = .fresh ["old".toList, "[12:00:00] ✓ a".toList, "[12:00:00] ✓ e".toList] := by
  decide +kernel

end Console

end Folio
