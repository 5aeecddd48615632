import Folio.Markdown.CharClass

/-!
# Blocks

The structure of a document above its lines of text, and what its readers and its printer take into
account.

Main definitions:
- `Markdown.Options`: what is read, and how it is printed
- `Markdown.Block`: a block, with text or inline content in it
- `Markdown.Block.mapContent`: another content in the same structure
-/

namespace Folio.Markdown

/-- What a Markdown reader and printer takes into account. -/
structure Options where
  /-- Tables, strikethrough, links without brackets, task lists and footnotes. -/
  gfm : Bool := true
  /-- Typographic quotes, dashes and ellipses. -/
  smart : Bool := false
  /-- Keep raw markup. -/
  unsafeHtml : Bool := true
deriving DecidableEq, Inhabited

/-- How the cells of a column are set. -/
inductive Alignment where
  | unset
  | left
  | center
  | right
deriving DecidableEq, Inhabited

/-- The kind of a list. Neighbouring items of one kind belong to one list. -/
inductive ListKind where
  | bullet (sign : Char)
  /-- A numbered list with the character after its numbers. -/
  | numbered (sign : Char)
deriving DecidableEq, Inhabited

/-- A block with content of some kind in it. -/
inductive Block (α : Type) where
  | paragraph (content : α)
  | heading (level : Nat) (content : α)
  | rule
  | code (info text : List Char)
  | html (text : List Char)
  | quote (children : List (Block α))
  /-- A list with the number of its first item. In a tight list paragraphs stand bare. -/
  | list (kind : ListKind) (start : Nat) (tight : Bool) (items : List (Block α))
  /-- An item of a list, and whether it is a task that is done. -/
  | item (done : Option Bool) (children : List (Block α))
  | table (alignments : List Alignment) (header : List α) (rows : List (List α))
  /-- A footnote, with the number of references to it. -/
  | footnote (name : List Char) (references : Nat) (children : List (Block α))
deriving Inhabited

variable {α β : Type}

mutual
/-- The block with other content. -/
def Block.mapContent (f : α → β) : Block α → Block β
  | .paragraph content => .paragraph (f content)
  | .heading level content => .heading level (f content)
  | .rule => .rule
  | .code info text => .code info text
  | .html text => .html text
  | .quote children => .quote (Block.mapContents f children)
  | .list kind start tight items => .list kind start tight (Block.mapContents f items)
  | .item done children => .item done (Block.mapContents f children)
  | .table alignments header rows =>
      .table alignments (header.map f) (rows.map fun row => row.map f)
  | .footnote name references children =>
      .footnote name references (Block.mapContents f children)

/-- The blocks with other content. -/
def Block.mapContents (f : α → β) : List (Block α) → List (Block β)
  | [] => []
  | block :: rest => block.mapContent f :: Block.mapContents f rest
end

end Folio.Markdown
