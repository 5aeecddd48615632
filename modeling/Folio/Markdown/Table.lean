import Folio.Markdown.Block
import Folio.Markdown.Link

/-!
# Tables

A table is a row of headings, a row of delimiters with as many cells, and rows of cells. A vertical
bar separates cells; after a backslash it belongs to the cell.

Main definitions:
- `Markdown.Row`, `Markdown.row?`: the cells of a line
- `Markdown.delimiterRow?`: the alignments of a row of delimiters
-/

namespace Folio.Markdown

/-! ## Section 1: Rows -/

/-- The cells of the last of some lines, and how many characters stand before that line. -/
structure Row where
  before : Nat
  cells : List (List Char)
deriving DecidableEq, Inhabited

/-- White space between the parts of a row. -/
def isRowSpace (c : Char) : Bool :=
  c = ' ' || c = '\t' || c.toNat = 0x0B || c.toNat = 0x0C

/-- The text of a cell up to the bar that ends it. -/
def cellText : Bool → List Char → List Char
  | _, [] => []
  | afterBackslash, c :: rest =>
      if (c = '|' && !afterBackslash) || isLineEnd c || c.toNat = 0 then []
      else c :: cellText (c = '\\') rest

/-- A text with bars instead of escaped bars. -/
def unescapeBars : List Char → List Char
  | '\\' :: '|' :: rest => '|' :: unescapeBars rest
  | c :: rest => c :: unescapeBars rest
  | [] => []

/-- How long a bar and the white space after it are. -/
def barLength (cs : List Char) : Nat :=
  match cs with
  | '|' :: rest => (rest.takeWhile isRowSpace).length + 1
  | _ => 0

/-- How long white space and the line end after it are. -/
def rowEndLength (cs : List Char) : Nat :=
  let spaces := (cs.takeWhile isRowSpace).length
  match cs.drop spaces with
  | '\r' :: '\n' :: _ => spaces + 2
  | '\n' :: _ => spaces + 1
  | _ => 0

/-- Read cells. Every step but the last takes a character. `before` counts the characters before
the line, `read` those read. -/
def readCells : Nat → Nat → Nat → List (List Char) → List Char → Option Row
  | 0, _, _, _, _ => none
  | fuel + 1, before, read, cells, cs =>
      let finish (cs : List Char) (cells : List (List Char)) : Option Row :=
        if cs.isEmpty && !cells.isEmpty then some ⟨before, cells.reverse⟩ else none
      if cs.isEmpty then finish cs cells
      else
        let cell := cellText false cs
        let bar := barLength (cs.drop cell.length)
        let length := cell.length + bar
        let cells := if length > 0 then trimSpacing (unescapeBars cell) :: cells else cells
        let after := cs.drop length
        if bar > 0 then readCells fuel before (read + length) cells after
        else
          let ending := rowEndLength after
          let next := after.drop ending
          if ending > 0 && !next.isEmpty then
            let start := read + length + ending
            let first := barLength next
            readCells fuel start (start + first) [] (next.drop first)
          else finish next cells

/-- The cells of the last of some lines. -/
def row? (cs : List Char) : Option Row :=
  let first := barLength cs
  readCells (cs.length + 1) 0 first [] (cs.drop first)

/-! ## Section 2: Delimiters -/

/-- Whether a cell is a delimiter: hyphens, with a colon at either end or none. -/
def isDelimiter (cs : List Char) : Bool :=
  let cs := cs.dropWhile isRowSpace
  let cs := if cs.head? = some ':' then cs.drop 1 else cs
  let after := cs.dropWhile (· == '-')
  let tail := if after.head? = some ':' then after.drop 1 else after
  after.length < cs.length && tail.all isRowSpace

/-- The parts between bars. -/
def barParts : List Char → List (List Char)
  | [] => [[]]
  | c :: rest =>
      match barParts rest with
      | [] => [[c]]
      | part :: more => if c = '|' then [] :: part :: more else (c :: part) :: more

/-- Whether a line is a row of delimiters. -/
def isDelimiterRow (cs : List Char) : Bool :=
  let line := cs.takeWhile fun c => !isLineEnd c
  let inner := if line.head? = some '|' then line.drop 1 else line
  let parts := barParts inner
  let parts := if parts.length > 1 && parts.getLast?.any (fun part => part.all isRowSpace) then
      parts.dropLast else parts
  parts.all isDelimiter

/-- The alignment that a delimiter asks for. -/
def delimiterAlignment (cell : List Char) : Alignment :=
  let atStart := cell.head? = some ':'
  let atEnd := cell.getLast? = some ':'
  if atStart && atEnd then .center
  else if atStart then .left
  else if atEnd then .right
  else .unset

/-- The alignments of a row of delimiters. -/
def delimiterAlignments? (cs : List Char) : Option (List Alignment) :=
  (row? cs).map fun row => row.cells.map delimiterAlignment

/-- Cells for a number of columns: empty ones are added and surplus ones go. -/
def fitCells (count : Nat) (cells : List (List Char)) : List (List Char) :=
  cells.take count ++ List.replicate (count - cells.length) []

end Folio.Markdown
