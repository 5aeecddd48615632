import Folio.Text.Split

/-!
# Terminal sequences

What a terminal is told between the texts that it shows: colours, and to erase what it showed.

Main definitions:
- `Style`, `Style.paint`
- `Command`, `Command.textOf`: what a terminal is told, and the text that says it
-/

namespace Folio.Console

/-- How a text looks. -/
inductive Style where
  | boldBrightBlue
  | boldBrightGreen
  | boldBrightRed
  | boldBrightYellow
  | green
  | red
  | dimmed
deriving DecidableEq, Inhabited

/-- The beginning of a terminal sequence. -/
def escape : String := "\x1b["

/-- Back to plain text. -/
def plain : String := escape ++ "0m"

namespace Style

/-- The sequence that starts a style. -/
def start (style : Style) : String :=
  escape ++ (match style with
    | .boldBrightBlue => "1;94"
    | .boldBrightGreen => "1;92"
    | .boldBrightRed => "1;91"
    | .boldBrightYellow => "1;93"
    | .green => "32"
    | .red => "31"
    | .dimmed => "2") ++ "m"

/-- A text in a style, if there are colours. The style starts again where the text itself goes back
to plain. -/
def paint (colored : Bool) (style : Style) (s : String) : String :=
  if colored then style.start ++ Text.replaceAll plain (plain ++ style.start) s ++ plain else s

end Style

/-- Something that a terminal is told. -/
inductive Command where
  /-- Show a text from the cursor on. -/
  | print (text : String)
  /-- Erase the rest of the line. -/
  | eraseToLineEnd
  /-- Erase everything from the cursor on. -/
  | eraseBelow
  /-- Move the cursor up by a number of lines. -/
  | moveUp (lines : Nat)
deriving DecidableEq, Inhabited

namespace Command

/-- The text of a command. -/
def text : Command → String
  | .print text => text
  | .eraseToLineEnd => escape ++ "K"
  | .eraseBelow => escape ++ "J"
  | .moveUp lines => escape ++ toString lines ++ "A"

/-- The text of commands, one after the other. -/
def textOf (commands : List Command) : String := String.join (commands.map text)

end Command

end Folio.Console
