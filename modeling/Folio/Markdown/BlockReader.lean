import Folio.Markdown.Line
import Folio.Markdown.Table
import Folio.Markdown.Tag

/-!
# Reading blocks

A document is read line by line. At any time some blocks are open, each inside the one before it. A
line first goes on with open blocks, from the outermost in, as far as it can; then it may open blocks
of its own; what is left is text for the innermost one.

A paragraph goes on with a line even if blocks around it do not, unless the line opens a block.

Main definitions:
- `Markdown.OpenBlock`: a block that can still grow
- `Markdown.BlockReader`: the open blocks and the link definitions so far
- `Markdown.readBlocks`: the blocks of a document and its link definitions
-/

namespace Folio.Markdown

/-! ## Section 1: Open blocks -/

/-- What an open block is. -/
inductive OpenKind where
  | document
  | quote
  | list (kind : ListKind) (start : Nat)
  /-- An item, how far its text is indented, and the number of its first line. -/
  | item (indent firstLine : Nat)
  | footnote (name : List Char)
  /-- A paragraph, and whether it is known not to begin a table. -/
  | paragraph (noTable : Bool)
  | heading (level : Nat) (underlined : Bool)
  | rule
  | indentedCode
  | fencedCode (fence : Fence)
  | html (start : HtmlStart)
  | table (alignments : List Alignment) (header : List (List Char))
      (rows : List (List (List Char)))
deriving Inhabited

/-- A block that cannot grow any more. -/
structure ClosedBlock where
  block : Block (List Char)
  /-- Whether a blank line follows it, or the last block in it. -/
  endsBlank : Bool
  /-- Whether a blank line follows a block in it that is not the last one. -/
  holdsBlank : Bool := false
deriving Inhabited

/-- A block that can still grow. -/
structure OpenBlock where
  kind : OpenKind
  /-- The closed blocks in it, the last one first. -/
  children : List ClosedBlock := []
  /-- Its lines of text, the last one first. -/
  lines : List (List Char) := []
  /-- Whether the last line that it took was blank. -/
  lastBlank : Bool := false
deriving Inhabited

namespace OpenBlock

/-- The text of a block. -/
def text (b : OpenBlock) : List Char := b.lines.reverse.flatten

/-- Whether a block is a paragraph. -/
def isParagraph (b : OpenBlock) : Bool := b.kind matches .paragraph _

/-- Whether a block takes lines of text that begin with no sign. -/
def takesText (b : OpenBlock) : Bool :=
  match b.kind with
  | .paragraph _ | .heading _ _ | .indentedCode | .fencedCode _ => true
  | _ => false

/-- Whether no block can begin in a block, since all lines are text. -/
def isVerbatim (b : OpenBlock) : Bool :=
  match b.kind with
  | .indentedCode | .fencedCode _ | .html _ => true
  | _ => false

/-- Whether a block can hold blocks: items if it is a list, else others. -/
def canHold (b : OpenBlock) (item : Bool) : Bool :=
  match b.kind with
  | .document | .quote | .item _ _ | .footnote _ => !item
  | .list _ _ => item
  | _ => false

end OpenBlock

/-- The open blocks, the innermost one first, and the link definitions so far. -/
structure BlockReader where
  opened : List OpenBlock
  references : References := []
  lineNumber : Nat := 0
deriving Inhabited

/-! ## Section 2: Closing blocks -/

/-- Drop lines without text from the end. -/
def dropBlankLines (lines : List (List Char)) : List (List Char) :=
  lines.dropWhile fun line => line.all fun c => isSpaceOrTab c || isLineEnd c

/-- The text of indented code: blank lines at its end go, and the last line has a plain end. -/
def OpenBlock.indentedText (b : OpenBlock) : List Char :=
  match dropBlankLines b.lines with
  | [] => ['\n']
  | last :: before => before.reverse.flatten ++ last.takeWhile (fun c => !isLineEnd c) ++ ['\n']

/-- The first line of fenced code, which tells its language, and the other lines. -/
def OpenBlock.fencedText (b : OpenBlock) : List Char × List Char :=
  match b.lines.reverse with
  | [] => ([], [])
  | info :: lines =>
      let info := unescapeReferences (info.length + 1) (info.takeWhile fun c => !isLineEnd c)
      (unescapeBackslashes (trimSpacing info), lines.flatten)

/-- Whether a list is tight: no blank line follows a block in it that is not the last one. The items
stand in reverse. -/
def isTight (items : List ClosedBlock) : Bool :=
  !(items.any fun item => item.holdsBlank) && !((items.drop 1).any fun item => item.endsBlank)

/-- What a block becomes when it is closed, with the link definitions then. A paragraph of nothing
but definitions vanishes. -/
def OpenBlock.close (references : References) (b : OpenBlock) :
    References × Option ClosedBlock :=
  let children := b.children.reverse.map ClosedBlock.block
  let leaf (block : Block (List Char)) : References × Option ClosedBlock :=
    (references, some { block, endsBlank := b.lastBlank })
  match b.kind with
  | .document => (references, none)
  | .quote => leaf (.quote children)
  | .list kind start =>
      (references, some
        { block := .list kind start (isTight b.children) children
          endsBlank := b.lastBlank || b.children.head?.any ClosedBlock.endsBlank })
  | .item _ _ =>
      (references, some
        { block := .item none children
          endsBlank := b.lastBlank || b.children.head?.any ClosedBlock.endsBlank
          holdsBlank := (b.children.drop 1).any ClosedBlock.endsBlank })
  | .footnote name => leaf (.footnote name 0 children)
  | .paragraph _ =>
      let (references, text) := takeDefinitions references b.text
      if text.all isSpacing then (references, none)
      else (references, some { block := .paragraph text, endsBlank := b.lastBlank })
  | .heading level _ => leaf (.heading level b.text)
  | .rule => leaf .rule
  | .indentedCode => leaf (.code [] (replaceNulls b.indentedText))
  | .fencedCode _ => leaf (.code (replaceNulls b.fencedText.1) (replaceNulls b.fencedText.2))
  | .html _ => leaf (.html b.text)
  | .table alignments header rows => leaf (.table alignments header rows.reverse)

namespace BlockReader

/-- Close the innermost block, unless it is the document. -/
def closeInnermost (r : BlockReader) : BlockReader :=
  match r.opened with
  | b :: parent :: rest =>
      let (references, closed) := b.close r.references
      { r with
        opened := { parent with children := closed.toList ++ parent.children } :: rest
        references }
  | _ => r

/-- Close a number of blocks. -/
def closeMany : Nat → BlockReader → BlockReader
  | 0, r => r
  | count + 1, r => closeMany count r.closeInnermost

/-- How many open blocks cannot hold a new block, from the innermost one on. -/
def obstacles (item : Bool) (opened : List OpenBlock) : Nat :=
  (opened.takeWhile fun b => !b.canHold item).length

/-- Open a block inside the innermost one that can hold it. -/
def push (b : OpenBlock) (r : BlockReader) : BlockReader :=
  let isItem := b.kind matches .item _ _
  let r := r.closeMany (obstacles isItem r.opened)
  { r with opened := b :: r.opened }

/-- Change the innermost block. -/
def modifyInnermost (f : OpenBlock → OpenBlock) (r : BlockReader) : BlockReader :=
  match r.opened with
  | b :: rest => { r with opened := f b :: rest }
  | [] => r

/-- Add a line of text to the innermost block. -/
def addLine (line : List Char) (r : BlockReader) : BlockReader :=
  r.modifyInnermost fun b => { b with lines := line :: b.lines }

end BlockReader

/-! ## Section 3: Going on with open blocks -/

/-- What a line is for an open block. -/
inductive Continuation where
  /-- The block goes on; what is left of the line belongs to it. -/
  | goesOn (rest : Line)
  /-- The block does not go on. -/
  | stops
  /-- The line closes the block and belongs to no other one. -/
  | closes

/-- Whether an open block goes on with a line, of which `whole` is the text. -/
def OpenBlock.continuation (b : OpenBlock) (whole : List Char) (l : Line) : Continuation :=
  let goesOnIf (c : Bool) : Continuation := if c then .goesOn l else .stops
  match b.kind with
  | .document | .list _ _ | .rule => .goesOn l
  | .quote =>
      let start := l.textStart
      if !l.isIndented && start.rest.head? = some '>' then .goesOn (start.advance 1).skipOneSpace
      else .stops
  | .item indent _ =>
      if l.indent ≥ indent then .goesOn (l.advanceColumns indent)
      else if l.isBlank && !b.children.isEmpty then .goesOn l.textStart
      else .stops
  | .footnote _ =>
      if l.isIndented then .goesOn (l.advanceColumns 4)
      else goesOnIf (whole = ['\n'] || whole = ['\r', '\n'])
  | .paragraph _ => goesOnIf !l.isBlank
  | .heading _ _ => .stops
  | .indentedCode =>
      if l.isIndented then .goesOn (l.advanceColumns 4)
      else if l.isBlank then .goesOn l.textStart
      else .stops
  | .fencedCode fence =>
      if !l.isIndented && fence.closes l.textStart.rest then .closes
      else .goesOn (l.skipSpacesUpTo fence.indent)
  | .html start => goesOnIf (!l.isBlank || !(start = .blockTag || start = .otherTag))
  | .table _ _ _ => goesOnIf (row? l.textStart.rest).isSome

/-- How far open blocks, the outermost one first, go on with a line: how many do, what is left of
the line, and whether it closed the next one. A block whose only block is open counts as filled. -/
def goOn (whole : List Char) : List OpenBlock → Line → Nat × Line × Bool
  | [], l => (0, l, false)
  | b :: inner, l =>
      let filled : OpenBlock :=
        if inner.isEmpty then b else { b with children := default :: b.children }
      match filled.continuation whole l with
      | .stops => (0, l, false)
      | .closes => (0, l, true)
      | .goesOn l =>
          let (count, l, closed) := goOn whole inner l
          (count + 1, l, closed)

/-! ## Section 4: Opening blocks -/

/-- The state in which blocks are opened: the open blocks that went on with the line, and how many of
those inside them did not. The latter are closed as soon as a block opens. -/
structure Opening where
  reader : BlockReader
  line : Line
  /-- The open blocks that did not go on, the innermost one first. -/
  unmatched : List OpenBlock
deriving Inhabited

namespace Opening

/-- The block in which a block would open. -/
def container (o : Opening) : OpenBlock := o.reader.opened.headD default

/-- Close what did not go on. -/
def settle (o : Opening) : Opening :=
  { o with
    reader := ({ o.reader with opened := o.unmatched ++ o.reader.opened }).closeMany
      o.unmatched.length
    unmatched := [] }

/-- Open a block, with what is left of the line. -/
def enter (o : Opening) (kind : OpenKind) (line : Line) : Opening :=
  let o := o.settle
  { o with reader := o.reader.push { kind }, line }

/-- Replace the innermost block. -/
def replace (o : Opening) (b : OpenBlock) (line : Line) : Opening :=
  { o with reader := o.reader.modifyInnermost fun _ => b, line }

/-- Open a quotation. -/
def quote? (o : Opening) : Option Opening :=
  let start := o.line.textStart
  if start.rest.head? = some '>' then
    some (o.enter .quote (start.advance 1).skipOneSpace)
  else none

/-- Open a heading that begins with number signs. -/
def heading? (o : Opening) : Option Opening :=
  let start := o.line.textStart
  (headingLevel? start.rest).map fun (level, length) =>
    o.enter (.heading level false) (start.advance length)

/-- Open fenced code. -/
def fence? (o : Opening) : Option Opening :=
  let start := o.line.textStart
  (Markdown.fence? start.rest).map fun (sign, length) =>
    let fence : Fence := { sign, length, indent := o.line.rest.length - start.rest.length }
    o.enter (.fencedCode fence) (start.advance length)

/-- Open a block of markup, which holds its first line as well. -/
def html? (o : Opening) : Option Opening :=
  match o.line.textStart.rest with
  | '<' :: rest =>
      (htmlStart? o.container.isParagraph rest).map fun start => o.enter (.html start) o.line
  | _ => none

/-- Make a paragraph a heading, unless it holds nothing but link definitions. -/
def underline? (o : Opening) : Option Opening :=
  let b := o.container
  if !b.isParagraph then none
  else
    (Markdown.underline? o.line.textStart.rest).map fun level =>
      let (references, text) := takeDefinitions o.reader.references b.text
      let o := { o with reader := { o.reader with references } }
      let b := { b with lines := [text] }
      if text.all isSpacing then o.replace b o.line
      else o.replace { b with kind := .heading level true } o.line.finished

/-- Open a rule. -/
def rule? (o : Opening) : Option Opening :=
  if isRule o.line.textStart.rest then some (o.enter .rule o.line.finished) else none

/-- Open a footnote. -/
def footnote? (options : Options) (o : Opening) : Option Opening :=
  let start := o.line.textStart
  if !options.gfm then none
  else
    (footnoteLabel? start.rest).map fun (name, length) =>
      o.enter (.footnote name) (start.advance length)

/-- Open an item, and a list around it unless it goes on with one. -/
def item? (o : Opening) : Option Opening :=
  let start := o.line.textStart
  (listMarker? o.container.isParagraph start.rest).map fun marker =>
    let (width, text) := itemText (start.advance marker.length)
    let indent := o.line.indent + marker.length + width
    let goesOn : Bool := match o.container.kind with
      | .list kind _ => kind = marker.kind
      | _ => false
    let o := if goesOn then o else o.enter (.list marker.kind marker.start) o.line
    o.enter (.item indent o.reader.lineNumber) text

/-- Open indented code. -/
def indentedCode? (inParagraph : Bool) (o : Opening) : Option Opening :=
  if o.line.isIndented && !inParagraph && !o.line.isBlank then
    some (o.enter .indentedCode (o.line.advanceColumns 4))
  else none

/-- Make the last line of a paragraph the header of a table. What stands before that line stays a
paragraph. -/
def table (noTable : Bool) (o : Opening) : Opening :=
  let b := o.container
  let line := o.line.textStart.rest
  let refused := o.replace { b with kind := .paragraph true } o.line
  if noTable || !isDelimiterRow line then o
  else
    match delimiterAlignments? line, row? b.text with
    | some alignments, some header =>
        if alignments.length ≠ header.cells.length then refused
        else
          let before := trimSpacing (unescapeBars (b.text.take header.before))
          let preface : List ClosedBlock :=
            if header.before = 0 then [] else [{ block := .paragraph before, endsBlank := false }]
          let opened := match o.reader.opened with
            | _ :: parent :: rest =>
                ({ kind := .table alignments header.cells [] } : OpenBlock)
                  :: { parent with children := preface ++ parent.children } :: rest
            | opened => opened
          { o with reader := { o.reader with opened }, line := o.line.finished }
    | _, _ => refused

end Opening

/-- How deeply lists and footnotes that begin in one line can nest. -/
def maxDepth : Nat := 100

/-- Open the block that a line begins with. -/
def Opening.block? (options : Options) (inParagraph : Bool) (depth : Nat) (o : Opening) :
    Option Opening :=
  let early := if o.line.isIndented then none else
    o.quote?.or <| o.heading?.or <| o.fence?.or <| o.html?.or <| o.underline?.or <| o.rule?.or <|
      if depth < maxDepth then (o.footnote? options).or o.item? else none
  early.or (o.indentedCode? inParagraph)

/-- What a line turned out to be. -/
inductive Outcome where
  /-- Its text remains to be added. -/
  | text (o : Opening)
  /-- It was a row of a table. -/
  | row (o : Opening)

/-- Open the blocks that a line begins with. Each of them takes a character, so the number of
characters bounds their number. -/
def openBlocks (options : Options) : Nat → Bool → Nat → Opening → Outcome
  | 0, _, _, o => .text o
  | fuel + 1, inParagraph, depth, o =>
      if o.container.isVerbatim then .text o
      else
        match o.block? options inParagraph depth with
        | some o => if o.container.takesText then .text o
            else openBlocks options fuel false (depth + 1) o
        | none =>
            if !options.gfm || o.line.isIndented then .text o
            else
              match o.container.kind with
              | .paragraph noTable => .text (o.table noTable)
              | .table alignments header rows =>
                  match if o.line.isBlank then none else row? o.line.textStart.rest with
                  | none => .text o
                  | some row =>
                      let rows := fitCells alignments.length row.cells :: rows
                      .row (o.replace { o.container with kind := .table alignments header rows }
                        o.line.finished)
              | _ => .text o

/-! ## Section 5: Adding text -/

/-- Whether a blank line counts as following a block. -/
def OpenBlock.countsBlank (b : OpenBlock) (lineNumber : Nat) : Bool :=
  match b.kind with
  | .quote | .heading _ _ | .rule | .fencedCode _ => false
  | .item _ firstLine => !b.children.isEmpty || firstLine ≠ lineNumber
  | _ => true

/-- Note whether a line is blank, for the innermost block that took it, for the last block in that
one, and for the blocks around it. -/
def Opening.noteBlank (blank : Bool) (o : Opening) : Opening :=
  let lastChildBlank (b : OpenBlock) : OpenBlock :=
    match b.children with
    | child :: rest => { b with children := { child with endsBlank := true } :: rest }
    | [] => b
  let unmatched := match o.unmatched.reverse with
    | outermost :: inner =>
        (if blank then { outermost with lastBlank := true } else outermost) :: inner
    | [] => []
  let opened := match o.reader.opened with
    | b :: around =>
        let holdsOpen := !o.unmatched.isEmpty
        let counts := { b with children := if holdsOpen then default :: b.children else b.children }
        let b := if blank && !holdsOpen then lastChildBlank b else b
        { b with lastBlank := blank && counts.countsBlank o.reader.lineNumber }
          :: around.map fun b => { b with lastBlank := false }
    | [] => []
  { o with unmatched := unmatched.reverse, reader := { o.reader with opened } }

/-- Add the text of a line to the innermost block. -/
def Opening.addText (o : Opening) : BlockReader :=
  let blank := o.line.isBlank
  let o := o.noteBlank blank
  if !blank && o.unmatched.head?.any OpenBlock.isParagraph then
    ({ o.reader with opened := o.unmatched ++ o.reader.opened }).addLine o.line.content
  else
    let reader := o.settle.reader
    let start := o.line.textStart
    match o.container.kind with
    | .indentedCode | .fencedCode _ => reader.addLine o.line.content
    | .html kind =>
        let reader := reader.addLine o.line.content
        if kind.endsWith start.rest then reader.closeInnermost else reader
    | .heading _ underlined =>
        if blank then reader
        else reader.addLine (if underlined then start.rest else headingText start.rest)
    | .paragraph _ => if blank then reader else reader.addLine start.rest
    | _ =>
        if blank then reader else (reader.push { kind := .paragraph false }).addLine start.rest

/-! ## Section 6: Documents -/

/-- Read a line. -/
def BlockReader.readLine (options : Options) (r : BlockReader) (line : List Char) : BlockReader :=
  let r := { r with lineNumber := r.lineNumber + 1 }
  let (count, rest, closed) := goOn line r.opened.reverse { rest := line }
  if closed then r.closeInnermost
  else
    let missed := r.opened.length - count
    let o : Opening :=
      { reader := { r with opened := r.opened.drop missed }
        line := rest
        unmatched := r.opened.take missed }
    let inParagraph := r.opened.head?.any OpenBlock.isParagraph
    match openBlocks options (line.length + 1) inParagraph 1 o with
    | .text o => o.addText
    | .row o => (o.noteBlank false).reader

/-- The blocks of a document and its link definitions. -/
def readBlocks (options : Options) (cs : List Char) : List (Block (List Char)) × References :=
  let start : BlockReader := { opened := [{ kind := .document }] }
  let r := (linesOf cs).foldl (BlockReader.readLine options) start
  let r := r.closeMany (r.opened.length - 1)
  (((r.opened.headD default).children.reverse).map ClosedBlock.block, r.references)

end Folio.Markdown
