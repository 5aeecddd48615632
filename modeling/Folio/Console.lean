import Folio.Console.Style
import Folio.Text.Clip

/-!
# What the user sees

Notices are lines of a log or the status of a watch. A line of the log has the name of its part in
front and is cut to the width of the terminal, unless it has several lines. A status replaces the
one before it, unless that one is detached.

Main definitions:
- `Notice`
- `Console.tell`: what the terminal is told of a notice
- `Console.write`: the text of a notice
-/

namespace Folio

/-- Something that the user is told. -/
inductive Notice where
  /-- A line of the log of a part of the program. -/
  | log (part message : String)
  /-- A status: all is well. -/
  | success (message : String)
  /-- A status: something failed. -/
  | failure (summary detail : String)
  /-- The last status stays. -/
  | detach
deriving DecidableEq, Inhabited

/-- A terminal. -/
structure Console where
  /-- The width, in bytes. -/
  width : Nat := 120
  colored : Bool := false
  /-- How many lines of the last status can be replaced. -/
  lines : Nat := 0
deriving DecidableEq, Inhabited

namespace Console

/-! ## Section 1: The log -/

/-- How the name of a part looks. -/
def partStyle (part : String) : Style :=
  let name := String.ofList (part.toList.map Char.toLower)
  if name = "render" then .boldBrightBlue
  else if name = "watch" then .boldBrightGreen
  else if name = "error" then .boldBrightRed
  else .boldBrightYellow

/-- How many bytes stand before a message: the name in brackets and a space. -/
def prefixSize (part : String) : Nat := part.utf8ByteSize + 3

/-- A message as far as it fits in the line. Several lines are not cut. -/
def fitted (width : Nat) (part message : String) : String :=
  if message.toList.contains '\n' then message
  else Text.clip (width - prefixSize part) message

/-- A line of the log, without its end. -/
def logLine (console : Console) (part message : String) : String :=
  (partStyle part).paint console.colored ("[" ++ part ++ "]") ++ " "
    ++ fitted console.width part message

/-! ## Section 2: The status -/

/-- How many lines a message takes. -/
def lineCount (message : String) : Nat := message.toList.count '\n' + 1

/-- The greatest number of lines that the cursor moves up, and one more. -/
def moveLimit : Nat := 65536

/-- What removes the last status. -/
def removal (console : Console) : List Command :=
  if console.lines = 0 then [] else [.moveUp (console.lines % moveLimit), .eraseBelow]

/-- A status at a time of day, without its end. -/
def block (colored : Bool) (time symbol message : String) : String :=
  Style.dimmed.paint colored ("[" ++ time ++ "]") ++ " " ++ symbol ++ " " ++ message

/-- What the terminal is told of a status at a time of day, and the terminal after it. -/
def display (console : Console) (time symbol message : String) : List Command × Console :=
  (console.removal ++ [.print (block console.colored time symbol message ++ "\n")],
    { console with lines := lineCount message })

/-- The message of a failure. -/
def failureMessage (summary detail : String) : String :=
  if detail.isEmpty then summary else summary ++ "\n" ++ detail

/-! ## Section 3: Notices -/

/-- What the terminal is told of a notice at a time of day, and the terminal after it. -/
def tell (console : Console) (time : String) (notice : Notice) : List Command × Console :=
  match notice with
  | .log part message => ([.eraseToLineEnd, .print (console.logLine part message ++ "\n")], console)
  | .success message => console.display time (Style.green.paint console.colored "✓") message
  | .failure summary detail =>
      console.display time (Style.red.paint console.colored "✗") (failureMessage summary detail)
  | .detach => ([], { console with lines := 0 })

/-- The text of a notice at a time of day, and the terminal after it. -/
def write (console : Console) (time : String) (notice : Notice) : String × Console :=
  let (commands, console) := console.tell time notice
  (Command.textOf commands, console)

/-- The text of notices, and the terminal after them. -/
def writeAll (console : Console) (time : String) : List Notice → String × Console
  | [] => ("", console)
  | notice :: rest =>
      let (text, console) := console.write time notice
      let (more, console) := writeAll console time rest
      (text ++ more, console)

end Console

end Folio
