import Folio.Markdown.BlockReader
import Folio.Markdown.Footnote
import Folio.Markdown.InlineReader

/-!
# Documents

The blocks of a document with their inline content. An item of a list that begins with a box is a
task.

Main definitions:
- `Markdown.readDocument`: a document
-/

namespace Folio.Markdown

/-! ## Section 1: Tasks -/

/-- Whether the box at the front of a text is ticked, and what follows the box and one character of
white space after it. -/
def taskBox? (cs : List Char) : Option (Bool × List Char) :=
  match cs.dropWhile isWideSpacing with
  | '[' :: sign :: ']' :: rest =>
      if !(sign = ' ' || sign = 'x' || sign = 'X') then none
      else if rest.head?.all isWideSpacing then some (sign ≠ ' ', rest.drop 1)
      else none
  | _ => none

/-- An item as a task, if it begins with a box. -/
def taskOf (children : Blocks) : Option (Bool × Blocks) :=
  match children with
  | .paragraph content :: rest =>
      match mergeTexts content with
      | .text cs :: parts =>
          (taskBox? cs).map fun (done, cs) =>
            (done, .paragraph (if cs.isEmpty then parts else .text cs :: parts) :: rest)
      | _ => none
  | _ => none

mutual
/-- A block with the tasks in it. -/
def markTasks : Block (List Inline) → Block (List Inline)
  | .quote children => .quote (markTasksIn children)
  | .list kind start tight items => .list kind start tight (markTasksIn items)
  | .item done children =>
      match taskOf (markTasksIn children) with
      | some (ticked, children) => .item (some ticked) children
      | none => .item done (markTasksIn children)
  | .footnote name references children => .footnote name references (markTasksIn children)
  | block => block

/-- Blocks with the tasks in them. -/
def markTasksIn : Blocks → Blocks
  | [] => []
  | block :: rest => markTasks block :: markTasksIn rest
end

/-! ## Section 2: Documents -/

/-- A document. -/
def readDocument (options : Options) (text : String) : Blocks :=
  let (blocks, references) := readBlocks options text.toList
  let inline (cs : List Char) : List Inline :=
    readInlines options references (Text.dropEndWhile isSpacing cs)
  let blocks := Block.mapContents inline blocks
  let blocks := if options.gfm then markTasksIn (placeFootnotes blocks) else blocks
  Block.mapContents (finishInlines options.gfm) blocks

end Folio.Markdown
