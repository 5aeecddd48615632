import Folio.Markdown.Block
import Folio.Markdown.Inline

/-!
# Footnotes

Footnotes are numbered in the order of the first references to them. Those with references move to
the end of the document; the others go. Of footnotes with one name the last counts, and the others
stay where they are. A reference to no footnote is text.

Main definitions:
- `Markdown.Footnotes`: the footnotes of a document with their numbers
- `Markdown.placeFootnotes`: a document with numbered references and its footnotes at the end
-/

namespace Folio.Markdown

/-! ## Section 1: Definitions -/

/-- A footnote of a document. -/
structure FootnoteEntry where
  /-- The normal form of its name. -/
  label : List Char
  name : List Char
  /-- Its number, once there is a reference to it. -/
  number : Option Nat := none
  references : Nat := 0
deriving Inhabited

/-- The footnotes of a document. -/
structure Footnotes where
  entries : List FootnoteEntry := []
  /-- How many of them have a number. -/
  numbered : Nat := 0
deriving Inhabited

/-- Blocks of a document. -/
abbrev Blocks := List (Block (List Inline))

mutual
/-- The names of the footnotes in a block, but for those inside other footnotes. -/
def footnoteNames : Block (List Inline) → List (List Char)
  | .footnote name _ _ => [name]
  | .quote children | .list _ _ _ children | .item _ children => footnoteNamesIn children
  | _ => []

/-- The names of the footnotes in blocks, but for those inside other footnotes. -/
def footnoteNamesIn : Blocks → List (List Char)
  | [] => []
  | block :: rest => footnoteNames block ++ footnoteNamesIn rest
end

/-- The footnotes with given names. Of those with one label the last counts. -/
def Footnotes.ofNames (names : List (List Char)) : Footnotes :=
  let add (entries : List FootnoteEntry) (name : List Char) : List FootnoteEntry :=
    let label := normalLabel name
    entries.filter (fun entry => entry.label ≠ label) ++ [{ label, name := tidyLabel name }]
  { entries := names.foldl add [] }

/-! ## Section 2: Numbers -/

/-- Note a reference to a footnote. -/
def Footnotes.refer (label : List Char) (notes : Footnotes) : Footnotes × Option FootnoteMark :=
  match notes.entries.find? fun entry => entry.label = label with
  | none => (notes, none)
  | some entry =>
      let number := entry.number.getD (notes.numbered + 1)
      let entry := { entry with number := some number, references := entry.references + 1 }
      let entries := notes.entries.map fun other => if other.label = label then entry else other
      ({ entries, numbered := max notes.numbered number },
        some { name := entry.name, number, occurrence := entry.references })

mutual
/-- A part of a text with its references numbered. -/
def numberInline : Inline → StateM Footnotes Inline
  | .footnoteName name => fun notes =>
      match notes.refer (normalLabel name) with
      | (notes, some mark) => (.footnote mark, notes)
      | (notes, none) => (.text ('[' :: '^' :: name ++ [']']), notes)
  | .emphasis children => .emphasis <$> numberInlines children
  | .strong children => .strong <$> numberInlines children
  | .strikethrough children => .strikethrough <$> numberInlines children
  | .link target children => .link target <$> numberInlines children
  | .image target children => .image target <$> numberInlines children
  | part => pure part

/-- Parts of a text with their references numbered. -/
def numberInlines : List Inline → StateM Footnotes (List Inline)
  | [] => pure []
  | part :: rest => do
      let part ← numberInline part
      let rest ← numberInlines rest
      pure (part :: rest)
end

mutual
/-- A block with its references numbered. -/
def numberBlock : Block (List Inline) → StateM Footnotes (Block (List Inline))
  | .paragraph content => .paragraph <$> numberInlines content
  | .heading level content => .heading level <$> numberInlines content
  | .quote children => .quote <$> numberBlocks children
  | .list kind start tight items => .list kind start tight <$> numberBlocks items
  | .item done children => .item done <$> numberBlocks children
  | .table alignments header rows => do
      let header ← header.mapM numberInlines
      let rows ← rows.mapM fun row => row.mapM numberInlines
      pure (.table alignments header rows)
  | .footnote name references children => .footnote name references <$> numberBlocks children
  | block => pure block

/-- Blocks with their references numbered. -/
def numberBlocks : Blocks → StateM Footnotes Blocks
  | [] => pure []
  | block :: rest => do
      let block ← numberBlock block
      let rest ← numberBlocks rest
      pure (block :: rest)
end

/-! ## Section 3: Places -/

mutual
/-- The footnotes in a block, but for those inside other footnotes. -/
def footnotesOf : Block (List Inline) → List (List Char × Blocks)
  | .footnote name _ children => [(normalLabel name, children)]
  | .quote children | .list _ _ _ children | .item _ children => footnotesIn children
  | _ => []

/-- The footnotes in blocks, but for those inside other footnotes. -/
def footnotesIn : Blocks → List (List Char × Blocks)
  | [] => []
  | block :: rest => footnotesOf block ++ footnotesIn rest
end

mutual
/-- A block without the footnotes in it that count, given the labels of the footnotes from it on. Of
the footnotes with one label the last counts; the others stay where they are. -/
def dropFootnotes : Block (List Inline) → StateM (List (List Char)) Blocks
  | .footnote name references children => do
      let ahead := (← get).drop 1
      set ahead
      pure (if ahead.contains (normalLabel name) then [.footnote name references children] else [])
  | .quote children => do pure [.quote (← dropFootnotesIn children)]
  | .list kind start tight items => do pure [.list kind start tight (← dropFootnotesIn items)]
  | .item done children => do pure [.item done (← dropFootnotesIn children)]
  | block => pure [block]

/-- Blocks without the footnotes that count. -/
def dropFootnotesIn : Blocks → StateM (List (List Char)) Blocks
  | [] => pure []
  | block :: rest => do
      let kept ← dropFootnotes block
      let others ← dropFootnotesIn rest
      pure (kept ++ others)
end

/-- A document with numbered references and its footnotes at the end. -/
def placeFootnotes (blocks : Blocks) : Blocks :=
  let names := footnoteNamesIn blocks
  let (blocks, notes) := (numberBlocks blocks).run (Footnotes.ofNames names)
  let bodies := (footnotesIn blocks).reverse
  let body (entry : FootnoteEntry) : Blocks :=
    ((bodies.find? fun (label, _) => label = entry.label).map Prod.snd).getD []
  let ordered := (List.range notes.numbered).filterMap fun i =>
    notes.entries.find? fun entry => entry.number = some (i + 1)
  let (others, _) := (dropFootnotesIn blocks).run (names.map normalLabel)
  others ++ ordered.map fun entry => .footnote entry.name entry.references (body entry)

end Folio.Markdown
