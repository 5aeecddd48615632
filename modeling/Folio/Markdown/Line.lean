import Folio.Markdown.Block
import Folio.Markdown.Link

/-!
# Lines

A line is read from the left: signs of blocks first, then the text in them. Tabs reach to the next
column that is a multiple of four, and a block may take a part of a tab.

Main definitions:
- `Markdown.linesOf`: the lines of a document
- `Markdown.Line`: what is left of a line
- `Markdown.ListMarker`, `Markdown.listMarker?`: signs of list items
- `Markdown.Fence`, `Markdown.fence?`: fences around code
- `Markdown.headingLevel?`, `Markdown.underline?`, `Markdown.isRule`, `Markdown.footnoteLabel?`: other
  signs
-/

namespace Folio.Markdown

/-! ## Section 1: The lines of a document -/

/-- Cut a text after each line end. The last line may have none. -/
def cutLines : List Char → List (List Char)
  | [] => []
  | '\r' :: '\n' :: rest => ['\r', '\n'] :: cutLines rest
  | c :: rest =>
      if isLineEnd c then [c] :: cutLines rest
      else
        match cutLines rest with
        | [] => [[c]]
        | line :: more => (c :: line) :: more

/-- The lines of a document, each with its end. A byte order mark at the front does not count. -/
def linesOf (cs : List Char) : List (List Char) :=
  cutLines (if cs.head? = some '\uFEFF' then cs.drop 1 else cs)

/-! ## Section 2: Places in a line -/

/-- What is left of a line from a column on. -/
structure Line where
  rest : List Char
  column : Nat := 0
  /-- Whether the column is inside a tab, which is still the first character left. -/
  insideTab : Bool := false
deriving Inhabited

/-- How many columns there are up to the next tab stop. -/
def toTabStop (column : Nat) : Nat := 4 - column % 4

/-- The column after a character. -/
def columnAfter (column : Nat) (c : Char) : Nat :=
  if c = '\t' then column + toTabStop column else column + c.utf8Size

namespace Line

/-- Move ahead by characters. -/
def advance : Nat → Line → Line
  | 0, l => l
  | count + 1, l =>
      match l.rest with
      | [] => l
      | c :: rest => advance count { rest, column := columnAfter l.column c }

/-- Move ahead by columns. -/
def advanceColumns : Nat → Line → Line
  | 0, l => l
  | count + 1, l =>
      match l.rest with
      | [] => l
      | c :: rest =>
          if c = '\t' && toTabStop l.column > 1 then
            advanceColumns count { l with column := l.column + 1, insideTab := true }
          else advanceColumns count { rest, column := l.column + 1 }

/-- The column of the first character that is no space, and the line from there. -/
def skipSpaces : Nat → List Char → Line
  | column, [] => { rest := [], column }
  | column, c :: rest =>
      if isSpaceOrTab c then skipSpaces (columnAfter column c) rest else { rest := c :: rest, column }

/-- The line from its first character that is no space. -/
def textStart (l : Line) : Line := skipSpaces l.column l.rest

/-- How many columns the text is indented. -/
def indent (l : Line) : Nat := l.textStart.column - l.column

/-- Whether there is no text. -/
def isBlank (l : Line) : Bool := atLineEnd l.textStart.rest

/-- Whether the text is indented as far as code is. -/
def isIndented (l : Line) : Bool := l.indent ≥ 4

/-- What is left, with the rest of a tab as spaces. -/
def content (l : Line) : List Char :=
  if l.insideTab then List.replicate (toTabStop l.column) ' ' ++ l.rest.drop 1 else l.rest

/-- Take one column of white space if there is one. -/
def skipOneSpace (l : Line) : Line :=
  if l.rest.head?.any isSpaceOrTab then l.advanceColumns 1 else l

/-- Take columns of white space, at most `count`. -/
def skipSpacesUpTo : Nat → Line → Line
  | 0, l => l
  | count + 1, l =>
      if l.rest.head?.any isSpaceOrTab then skipSpacesUpTo count (l.advanceColumns 1) else l

/-- What remains of a line when a block has taken it: its end. -/
def finished (l : Line) : Line :=
  { l with rest := l.rest.dropWhile fun c => !isLineEnd c, insideTab := false }

end Line

/-! ## Section 3: Headings and rules -/

/-- The level of a heading that begins with number signs, and how long they are with the white space
after them. -/
def headingLevel? (cs : List Char) : Option (Nat × Nat) :=
  let signs := (cs.takeWhile (· == '#')).length
  let after := cs.drop signs
  let spaces := (after.takeWhile isSpaceOrTab).length
  if signs = 0 || signs > 6 then none
  else if spaces > 0 then some (signs, signs + spaces)
  else if atLineEnd after then some (signs, signs)
  else none

/-- The text of a heading without the number signs that close it. White space stands before the
text. -/
def headingText (cs : List Char) : List Char :=
  let cs := Text.dropEndWhile isSpacing cs
  let before := Text.dropEndWhile (· == '#') cs
  if before.length = cs.length then cs
  else if before.isEmpty || before.getLast?.any isSpaceOrTab then Text.dropEndWhile isSpacing before
  else cs

/-- The level of a heading that a line marks by underlining it. -/
def underline? (cs : List Char) : Option Nat :=
  let level (sign : Char) (level : Nat) : Option Nat :=
    if atLineEnd ((cs.dropWhile (· == sign)).dropWhile isSpaceOrTab) then some level else none
  match cs.head? with
  | some '=' => level '=' 1
  | some '-' => level '-' 2
  | _ => none

/-- Whether a line is a rule: three or more of one sign, with white space between them. -/
def isRule (cs : List Char) : Bool :=
  match cs with
  | sign :: _ =>
      (sign = '*' || sign = '_' || sign = '-') && cs.count sign ≥ 3
        && cs.all fun c => c = sign || isSpacing c
  | [] => false

/-! ## Section 4: Fences -/

/-- A fence before code. -/
structure Fence where
  sign : Char
  length : Nat
  /-- How far the fence is indented. Code is indented as far. -/
  indent : Nat
deriving DecidableEq, Inhabited

/-- The sign and the length of the fence at the front of a line. -/
def fence? (cs : List Char) : Option (Char × Nat) :=
  match cs with
  | sign :: _ =>
      let length := (cs.takeWhile (· == sign)).length
      let info := cs.drop length
      if length ≥ 3 && !info.any (fun c => c.toNat = 0)
          && (sign = '~' || (sign = '\x60' && !info.contains '\x60')) then
        some (sign, length)
      else none
  | [] => none

/-- Whether a line closes what a fence opened. -/
def Fence.closes (fence : Fence) (cs : List Char) : Bool :=
  let length := (cs.takeWhile (· == fence.sign)).length
  length ≥ max 3 fence.length && atLineEnd ((cs.drop length).dropWhile isSpaceOrTab)

/-! ## Section 5: Items and footnotes -/

/-- The sign of a list item. -/
structure ListMarker where
  kind : ListKind
  start : Nat
  length : Nat
deriving Inhabited

/-- The sign of a list item at the front of a text. White space follows it; after a bullet the
document may end as well. In a paragraph, only one of an item with text, and a number only if it is
one. -/
def listMarker? (inParagraph : Bool) (cs : List Char) : Option ListMarker :=
  let interrupts (after : List Char) : Bool :=
    let text := after.dropWhile isSpaceOrTab
    !(text.isEmpty || text.head? = some '\n')
  let allowed (after : List Char) : Bool :=
    after.head?.all isSpacing && (!inParagraph || interrupts after)
  match cs with
  | c :: rest =>
      if c = '*' || c = '-' || c = '+' then
        if allowed rest then some ⟨.bullet c, 1, 1⟩ else none
      else
        let digits := (cs.takeWhile Char.isDigit).take 9
        let start := digits.foldl (fun n d => 10 * n + (d.toNat - 48)) 0
        match cs.drop digits.length with
        | sign :: after =>
            if digits.isEmpty || !(sign = '.' || sign = ')') || (inParagraph && start ≠ 1) then none
            else if !after.isEmpty && allowed after then
              some ⟨.numbered sign, start, digits.length + 1⟩
            else none
        | [] => none
  | [] => none

/-- How far the text of an item is from its sign, and the line from that text on. More than four
columns of white space are part of the text, but for the first one. -/
def itemText (l : Line) : Nat × Line :=
  let spaced := l.skipSpacesUpTo 6
  let width := spaced.column - l.column
  if width ≥ 1 && width < 5 && !atLineEnd spaced.rest then (width, spaced)
  else (1, if width > 0 then l.advanceColumns 1 else l)

/-- The name of the footnote that a line begins to define, and how long its sign is. -/
def footnoteLabel? (cs : List Char) : Option (List Char × Nat) :=
  match cs with
  | '[' :: '^' :: rest =>
      let name := rest.takeWhile fun c => !(c = ']' || isSpacing c || c.toNat = 0)
      match rest.drop name.length with
      | ']' :: ':' :: after =>
          if name.isEmpty then none
          else some (name, name.length + 4 + (after.takeWhile isSpaceOrTab).length)
      | _ => none
  | _ => none

end Folio.Markdown
