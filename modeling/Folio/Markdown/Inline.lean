import Folio.Markdown.Link

/-!
# Inline content

What stands in a line of text, and how runs of delimiters become emphasis.

A run can open emphasis, close it, or both. Runs are gone through from the left; one that can close
takes the nearest run before it that fits, and what stands between them is emphasised.

Main definitions:
- `Markdown.Inline`: the tree
- `Markdown.Piece`: a part whose meaning may still be open
- `Markdown.resolveRuns`: pieces as inline content
-/

namespace Folio.Markdown

/-! ## Section 1: Trees -/

/-- The number of a footnote, and how many references to it there are up to this one. -/
structure FootnoteMark where
  name : List Char
  number : Nat
  occurrence : Nat
deriving DecidableEq, Inhabited

/-- A part of inline content. -/
inductive Inline where
  | text (cs : List Char)
  /-- A character that a backslash escapes. It stands for itself alone, whatever is around it. -/
  | escaped (c : Char)
  | softBreak
  | lineBreak
  | code (cs : List Char)
  | html (cs : List Char)
  | emphasis (children : List Inline)
  | strong (children : List Inline)
  | strikethrough (children : List Inline)
  | link (target : LinkTarget) (children : List Inline)
  | image (target : LinkTarget) (children : List Inline)
  /-- A reference to a footnote by its name, before it is known whether there is one. -/
  | footnoteName (name : List Char)
  | footnote (mark : FootnoteMark)
deriving Inhabited

/-! ## Section 2: Pieces -/

/-- A run of delimiters. -/
structure DelimiterRun where
  char : Char
  /-- How many delimiters are left. -/
  count : Nat
  /-- How many there were. -/
  length : Nat
  canOpen : Bool
  canClose : Bool
  /-- What the run is if nothing takes it. -/
  text : List Char
deriving Inhabited

/-- An opening bracket. -/
structure Bracket where
  isImage : Bool
  /-- The text after the bracket. -/
  source : List Char
  /-- Whether another bracket was opened after it. -/
  hasBracketAfter : Bool := false
deriving Inhabited

/-- A part of inline content whose meaning may still be open. -/
inductive Piece where
  | done (part : Inline)
  | run (r : DelimiterRun)
  | bracket (b : Bracket)
deriving Inhabited

/-- What a run is if nothing takes it. -/
def DelimiterRun.asText (r : DelimiterRun) : Inline :=
  .text (if r.char = '"' || r.char = '\'' then r.text else List.replicate r.count r.char)

/-- A piece that nothing takes. -/
def Piece.settled : Piece → Inline
  | .done part => part
  | .run r => r.asText
  | .bracket b => .text (if b.isImage then ['!', '['] else ['['])

/-- Whether a run closes what another one opens. Where one of them can do both, their lengths must
not add up to a multiple of three, unless each is one. -/
def DelimiterRun.fits (opener closer : DelimiterRun) : Bool :=
  opener.canOpen && opener.char = closer.char &&
    !((closer.canOpen || opener.canClose) && (opener.length + closer.length) % 3 = 0
      && !(opener.length % 3 = 0 && closer.length % 3 = 0))

/-- The nearest run that fits, with the pieces after it and those before it, the nearest first. -/
def findOpener (closer : DelimiterRun) :
    List Piece → List Piece → Option (List Piece × DelimiterRun × List Piece)
  | _, [] => none
  | after, .run r :: before =>
      if r.fits closer then some (after, r, before) else findOpener closer (.run r :: after) before
  | after, p :: before => findOpener closer (p :: after) before

/-- Emphasis of a strength, for a kind of delimiter. -/
def emphasised (delimiter : Char) (strength : Nat) (children : List Inline) : Inline :=
  if delimiter = '~' then .strikethrough children
  else if strength = 2 then .strong children
  else .emphasis children

/-- A run with some delimiters taken, unless none are left. -/
def DelimiterRun.remaining (r : DelimiterRun) (taken : Nat) : List Piece :=
  if r.count ≤ taken then [] else [.run { r with count := r.count - taken }]

/-- What happens to a run that can close. -/
inductive Closing where
  /-- Nothing fits. -/
  | unmatched
  /-- The run is a quotation mark; the pieces before it change. -/
  | quoted (before : List Piece)
  /-- Something is emphasised; the pieces up to it, and what is left of the run. -/
  | matched (before : List Piece) (rest : List Piece)
  /-- The runs are of lengths that do not go together, and no further run counts. -/
  | abandoned

/-- Close what the nearest fitting run opens. -/
def closeRun (closer : DelimiterRun) (before : List Piece) : Closing :=
  match findOpener closer [] before with
  | none => .unmatched
  | some (between, opener, rest) =>
      if closer.char = '"' || closer.char = '\'' then
        let mark : Inline := .text [if closer.char = '"' then '“' else '‘']
        .quoted (between.reverse ++ .done mark :: rest)
      else
        let taken := if closer.count ≥ 2 && opener.count ≥ 2 then 2 else 1
        if closer.char = '~' && (opener.count ≠ taken || closer.count ≠ taken) then .abandoned
        else
          let part := emphasised closer.char taken (between.map Piece.settled)
          .matched (.done part :: (opener.remaining taken ++ rest)) (closer.remaining taken)

/-- Go through pieces from the left. Each step takes a piece or a delimiter away from those ahead,
so their number bounds the steps. The pieces behind stand in reverse order. -/
def resolveFrom : Nat → List Piece → List Piece → List Piece
  | 0, behind, ahead => behind.reverse ++ ahead
  | _ + 1, behind, [] => behind.reverse
  | fuel + 1, behind, .run r :: ahead =>
      if !r.canClose then resolveFrom fuel (.run r :: behind) ahead
      else
        let closingMark : Inline := .text [if r.char = '"' then '”' else '’']
        let isQuote := r.char = '"' || r.char = '\''
        match closeRun r behind with
        | .abandoned => behind.reverse ++ .run r :: ahead
        | .matched behind rest => resolveFrom fuel behind (rest ++ ahead)
        | .quoted behind => resolveFrom fuel (.done closingMark :: behind) ahead
        | .unmatched =>
            let r := if isQuote then
                { r with text := [if r.char = '"' then '”' else '’'] } else r
            if r.canOpen then resolveFrom fuel (.run r :: behind) ahead
            else resolveFrom fuel (.done r.asText :: behind) ahead
  | fuel + 1, behind, p :: ahead => resolveFrom fuel (p :: behind) ahead

/-- How many steps a piece can take. -/
def Piece.weight : Piece → Nat
  | .run r => r.count + 1
  | _ => 1

/-- Pieces as inline content. -/
def resolveRuns (pieces : List Piece) : List Inline :=
  let fuel := pieces.foldl (fun n p => n + p.weight) 1
  (resolveFrom fuel [] pieces).map Piece.settled

end Folio.Markdown
