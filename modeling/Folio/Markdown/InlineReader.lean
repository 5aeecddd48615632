import Folio.Markdown.Address
import Folio.Markdown.Block
import Folio.Markdown.Tag

/-!
# Reading inline content

A text is read from the left. What is certain becomes a part at once; delimiters and opening brackets
wait for what follows.

Main definitions:
- `Markdown.Subject`: the state of reading
- `Markdown.readInlines`: the inline content of a text
- `Markdown.mergeTexts`: neighbouring texts put together
-/

namespace Folio.Markdown

/-! ## Section 1: State -/

/-- The state of reading a text. -/
structure Subject where
  /-- What was read, in reverse. -/
  before : List Char := []
  rest : List Char
  /-- The pieces so far, the last one first. -/
  pieces : List Piece := []
  /-- Whether opening brackets make no link, because one was made. -/
  noLinkOpeners : Bool := false
  /-- Whether an opening bracket was read after the last closing one. -/
  inBrackets : Bool := false
  /-- The kinds of raw markup of which an ending was found missing. -/
  missingEnds : List MarkupKind := []
deriving Inhabited

namespace Subject

/-- Move ahead by a number of characters. -/
def advance (s : Subject) (count : Nat) : Subject :=
  { s with before := (s.rest.take count).reverse ++ s.before, rest := s.rest.drop count }

/-- Add a piece. -/
def add (s : Subject) (p : Piece) : Subject := { s with pieces := p :: s.pieces }

/-- Move ahead and add a part. -/
def take (s : Subject) (count : Nat) (part : Inline) : Subject := (s.advance count).add (.done part)

/-- Move ahead and add what was passed as text. -/
def takeText (s : Subject) (count : Nat) : Subject := s.take count (.text (s.rest.take count))

end Subject

/-! ## Section 2: Code, escapes, references and markup -/

/-- A text with a space for each line end. -/
def joinLines : List Char → List Char
  | [] => []
  | '\r' :: '\n' :: rest => ' ' :: joinLines rest
  | c :: rest => (if isLineEnd c then ' ' else c) :: joinLines rest

/-- The text of a code span: line ends become spaces, and a space goes at both ends if there are
both and something else. -/
def codeText (cs : List Char) : List Char :=
  let cs := joinLines cs
  if cs.head? = some ' ' && cs.getLast? = some ' ' && cs.any (· ≠ ' ') && cs.length ≥ 2 then
    (cs.drop 1).dropLast
  else cs

/-- The text before the first run of exactly `count` grave accents, and its length with the run. -/
def codeSpan? (count : Nat) : Nat → List Char → Option (List Char × Nat)
  | 0, _ => none
  | _ + 1, [] => none
  | fuel + 1, c :: rest =>
      if c = '\x60' then
        let ticks := (c :: rest).takeWhile (· == '\x60')
        if ticks.length = count then some ([], count)
        else
          (codeSpan? count fuel ((c :: rest).drop ticks.length)).map fun (inside, length) =>
            (ticks ++ inside, ticks.length + length)
      else
        (codeSpan? count fuel rest).map fun (inside, length) => (c :: inside, length + 1)

/-- The greatest number of accents that open a code span. -/
def maxAccents : Nat := 80

/-- A code span, or its opening accents as text. -/
def readCode (s : Subject) : Subject :=
  let ticks := s.rest.takeWhile (· == '\x60')
  let after := s.rest.drop ticks.length
  match if ticks.length > maxAccents then none
    else codeSpan? ticks.length (after.length + 1) after with
  | some (inside, length) => s.take (ticks.length + length) (.code (codeText inside))
  | none => s.takeText ticks.length

/-- A line end: hard after two spaces. Spaces after it go. -/
def readLineEnd (s : Subject) : Subject :=
  let hard := s.before.take 2 = [' ', ' ']
  let length := s.rest.length - (skipLineEnd s.rest).length
  let s := s.take length (if hard then .lineBreak else .softBreak)
  s.advance (s.rest.takeWhile isSpaceOrTab).length

/-- A backslash: it escapes a punctuation character, breaks a line, or is itself. -/
def readBackslash (s : Subject) : Subject :=
  match s.rest.drop 1 with
  | c :: rest =>
      if isAsciiPunctuation c then s.take 2 (.escaped c)
      else if isLineEnd c then
        let after := skipLineEnd (c :: rest)
        let s := s.take (s.rest.length - after.length) .lineBreak
        s.advance (after.takeWhile isSpaceOrTab).length
      else s.takeText 1
  | [] => s.takeText 1

/-- A character reference, or an ampersand. -/
def readReference (s : Subject) : Subject :=
  match reference? (s.rest.drop 1) with
  | some (text, after) => s.take (s.rest.length - after.length) (.text text.toList)
  | none => s.takeText 1

/-- Something in angle brackets, or an opening angle bracket. -/
def readAngle (s : Subject) : Subject :=
  let inside := s.rest.drop 1
  let address (length : Nat) (scheme : String) : Subject :=
    let text := unescapeReferences (length + 1) (inside.take (length - 1))
    s.take (length + 1) (.link ⟨scheme ++ String.ofList text, ""⟩ [.text text])
  match uriAddress? inside with
  | some length => address length ""
  | none =>
      match emailAddress? inside with
      | some length => address length "mailto:"
      | none =>
          match rawMarkup? s.missingEnds inside with
          | (some length, _) => s.take (length + 1) (.html (s.rest.take (length + 1)))
          | (none, missingEnds) => { s.takeText 1 with missingEnds }

/-! ## Section 3: Delimiters -/

/-- Whether a run can open and close, from the characters around it. -/
def flanking (delimiter : Char) (before after : Option Char) : Bool × Bool :=
  let b := before.getD '\n'
  let a := after.getD '\n'
  let left := !Text.isSpace a && (!isPunctuation a || Text.isSpace b || isPunctuation b)
  let right := !Text.isSpace b && (!isPunctuation b || Text.isSpace a || isPunctuation a)
  if delimiter = '_' then
    (left && (!right || isPunctuation b), right && (!left || isPunctuation a))
  else if delimiter = '\'' || delimiter = '"' then
    (left && (!right || b = '(' || b = '[') && b ≠ ']' && b ≠ ')', right)
  else (left, right)

/-- A run of delimiters. A quotation mark is a run of its own. Where tildes are delimiters, the
characters around a run are those beyond its neighbouring tildes; and more than two tildes are
text. -/
def readRun (options : Options) (c : Char) (s : Subject) : Subject :=
  let isQuote := c = '"' || c = '\''
  let count := if isQuote then 1 else (s.rest.takeWhile (· == c)).length
  let beyond (cs : List Char) : Option Char :=
    (if options.gfm then cs.dropWhile (· == '~') else cs).head?
  let (canOpen, canClose) := flanking c (beyond s.before) (beyond (s.rest.drop count))
  let text := if !options.smart || !isQuote then s.rest.take count
    else if c = '\'' then ['’']
    else if canClose then ['”'] else ['“']
  if (canOpen || canClose) && !(c = '~' && count > 2) then
    (s.advance count).add (.run { char := c, count, length := count, canOpen, canClose, text })
  else s.take count (.text text)

/-- Hyphens as dashes: long ones if their number is a multiple of three, short ones if it is even,
else long ones and one or two short ones. -/
def dashes (count : Nat) : List Char :=
  let (short, long) :=
    if count = 1 then (0, 0)
    else if count % 3 = 0 then (0, count / 3)
    else if count % 2 = 0 then (count / 2, 0)
    else if count % 3 = 2 then (1, (count - 2) / 3)
    else (2, (count - 4) / 3)
  if count = 1 then ['-'] else List.replicate long '—' ++ List.replicate short '–'

/-- Hyphens where typography counts. -/
def readHyphens (s : Subject) : Subject :=
  let count := (s.rest.takeWhile (· == '-')).length
  s.take count (.text (dashes count))

/-- Dots where typography counts: three are an ellipsis. -/
def readDots (s : Subject) : Subject :=
  let count := min 3 (s.rest.takeWhile (· == '.')).length
  s.take count (.text (if count = 3 then ['…'] else List.replicate count '.'))

/-! ## Section 4: Brackets -/

/-- Mark the last opening bracket as having another one after it. -/
def markBracket : List Piece → List Piece
  | [] => []
  | .bracket b :: rest => .bracket { b with hasBracketAfter := true } :: rest
  | p :: rest => p :: markBracket rest

/-- An opening bracket of a link or an image. -/
def openBracket (isImage : Bool) (s : Subject) : Subject :=
  let s := s.advance (if isImage then 2 else 1)
  { s with
    pieces := .bracket { isImage, source := s.rest } :: markBracket s.pieces
    noLinkOpeners := s.noLinkOpeners && isImage
    inBrackets := true }

/-- The last opening bracket, with the pieces after it in order and those before it. -/
def lastBracket? : List Piece → List Piece → Option (List Piece × Bracket × List Piece)
  | _, [] => none
  | after, .bracket b :: before => some (after, b, before)
  | after, p :: before => lastBracket? (p :: after) before

/-- The target in parentheses at the front of a text, and its length. -/
def inlineTarget? (cs : List Char) : Option (LinkTarget × Nat) :=
  match cs with
  | '(' :: rest =>
      let start := rest.dropWhile isWideSpacing
      match destination? start with
      | none => none
      | some (url, afterUrl) =>
          let beforeTitle := afterUrl.dropWhile isWideSpacing
          let (title, afterTitle) :=
            if beforeTitle.length = afterUrl.length then ([], beforeTitle)
            else (title? beforeTitle).getD ([], beforeTitle)
          match afterTitle.dropWhile isWideSpacing with
          | ')' :: after =>
              some (⟨cleanUrl url, cleanTitle title⟩, cs.length - after.length)
          | _ => none
  | _ => none

/-- The label that a closing bracket refers to, and how much text it takes: one in brackets, or the
text since the opening bracket, unless that holds brackets. -/
def referredLabel? (b : Bracket) (after : List Char) : Option (List Char) × Nat :=
  let found := label? after
  let taken := match found with
    | some (_, rest) => after.length - rest.length
    | none => 0
  match found with
  | some (label, _) =>
      if label = [] && !b.hasBracketAfter then
        (some (b.source.take (b.source.length - after.length - 1)), taken)
      else (some label, taken)
  | none =>
      if b.hasBracketAfter then (none, 0)
      else (some (b.source.take (b.source.length - after.length - 1)), 0)

/-- The text of a piece, if it is plain. -/
def plainText? : Piece → Option (List Char)
  | .done (.text cs) | .done (.html cs) => some cs
  | .done _ => none
  | p => match p.settled with
    | .text cs => some cs
    | _ => none

/-- The name of a footnote that pieces spell, after a caret. -/
def footnoteName? (pieces : List Piece) : Option (List Char) :=
  match pieces.head?.bind plainText? with
  | some ('^' :: _) =>
      let name := (pieces.filterMap plainText?).flatten.drop 1
      if name = [] then none else some name
  | _ => none

/-- The end of a link or an image with a target. -/
def closeLink (s : Subject) (length : Nat) (target : LinkTarget) (b : Bracket)
    (inside before : List Piece) : Subject :=
  let children := resolveRuns inside
  let part := if b.isImage then Inline.image target children else .link target children
  { s.advance length with
    pieces := .done part :: before
    noLinkOpeners := s.noLinkOpeners || !b.isImage }

/-- A closing bracket: the end of a link, an image or a footnote reference, or itself. -/
def readCloseBracket (options : Options) (references : References) (s : Subject) : Subject :=
  let s := { s.advance 1 with inBrackets := false }
  match lastBracket? [] s.pieces with
  | none => s.add (.done (.text [']']))
  | some (inside, b, before) =>
      let asText := { s with
        pieces := .done (.text [']']) :: (inside.reverse ++ .done (Piece.bracket b).settled :: before) }
      if !b.isImage && s.noLinkOpeners then asText
      else
        match inlineTarget? s.rest with
        | some (target, length) => closeLink s length target b inside before
        | none =>
            let (label, taken) := referredLabel? b s.rest
            match label.bind references.lookup? with
            | some target => closeLink s taken target b inside before
            | none =>
                match if options.gfm then footnoteName? inside else none with
                | some name =>
                    let others := inside.filter fun p => (plainText? p).isNone
                    { s with pieces := others.reverse ++ .done (.footnoteName name) :: before }
                | none => asText

/-! ## Section 5: Addresses -/

/-- Drop characters from the end of the texts that were added last. -/
def dropFromTexts : Nat → List Piece → List Piece
  | count, .done (.text cs) :: rest =>
      if count < cs.length then .done (.text (cs.take (cs.length - count))) :: rest
      else dropFromTexts (count - cs.length) rest
  | _, pieces => pieces

/-- A colon: part of a web address, or itself. -/
def readColon (s : Subject) : Subject :=
  match if s.inBrackets then none else webAddress? s.before (s.rest.drop 1) with
  | none => s.takeText 1
  | some (scheme, tail) =>
      let address := scheme ++ tail
      let s := { s with pieces := dropFromTexts scheme.length s.pieces }
      s.take tail.length (.link ⟨String.ofList address, ""⟩ [.text address])

/-- A letter that may begin an address without a scheme. -/
def readWww (s : Subject) : Subject :=
  match if s.inBrackets then none else wwwAddress? s.before.head? s.rest with
  | none => s.takeText 1
  | some address =>
      s.take address.length (.link ⟨"http://" ++ String.ofList address, ""⟩ [.text address])

/-! ## Section 6: All together -/

/-- Whether reading stops at a character. -/
def isSpecial (options : Options) (c : Char) : Bool :=
  "\n\r\x60\\&<*_[]!".toList.contains c
    || (options.smart && "'\"-.".toList.contains c)
    || (options.gfm && "~:w".toList.contains c)

/-- Characters up to the next one at which reading stops. Spaces before a line end go, and after a
line break those at the start. -/
def readPlain (options : Options) (s : Subject) : Subject :=
  let run := s.rest.takeWhile fun c => !isSpecial options c
  let next := (s.rest.drop run.length).head?
  let text := if next.any isLineEnd then Text.dropEndWhile isSpacing run else run
  let text := match s.pieces.head? with
    | some (.done .lineBreak) => text.dropWhile isSpacing
    | _ => text
  s.take run.length (.text text)

/-- Read what comes next. -/
def readNext (options : Options) (references : References) (s : Subject) : Subject :=
  match s.rest with
  | [] => s
  | c :: rest =>
      if !isSpecial options c then readPlain options s
      else
        match c with
        | '\n' | '\r' => readLineEnd s
        | '\x60' => readCode s
        | '\\' => readBackslash s
        | '&' => readReference s
        | '<' => readAngle s
        | '[' => openBracket false s
        | ']' => readCloseBracket options references s
        | '!' =>
            if rest.head? = some '[' && (rest.drop 1).head? ≠ some '^' then openBracket true s
            else s.takeText 1
        | '-' => readHyphens s
        | '.' => readDots s
        | ':' => readColon s
        | 'w' => readWww s
        | c => readRun options c s

/-- Read to the end. Each step takes a character, so their number bounds the steps. -/
def readAll (options : Options) (references : References) : Nat → Subject → Subject
  | 0, s => s
  | fuel + 1, s =>
      if s.rest.isEmpty then s else readAll options references fuel (readNext options references s)

/-- The inline content of a text. -/
def readInlines (options : Options) (references : References) (cs : List Char) : List Inline :=
  let cs := replaceNulls cs
  let s := readAll options references (cs.length + 1) { rest := cs }
  resolveRuns s.pieces.reverse

/-- Neighbouring texts put together. -/
def mergeTexts : List Inline → List Inline
  | [] => []
  | .text cs :: rest =>
      match mergeTexts rest with
      | .text ds :: more => .text (cs ++ ds) :: more
      | more => if cs.isEmpty then more else .text cs :: more
  | part :: rest => part :: mergeTexts rest

/-- Neighbouring texts put together, and their mail addresses as links. -/
def linkTexts (mail : Bool) (parts : List Inline) : List Inline :=
  (mergeTexts parts).flatMap fun part =>
    match part with
    | .text cs => if mail then linkMail cs else [.text cs]
    | part => [part]

mutual
/-- The texts inside a part put together, and outside links their mail addresses as links. -/
def finishPart (mail : Bool) : Inline → Inline
  | .emphasis children => .emphasis (linkTexts mail (finishParts mail children))
  | .strong children => .strong (linkTexts mail (finishParts mail children))
  | .strikethrough children => .strikethrough (linkTexts mail (finishParts mail children))
  | .link target children => .link target (linkTexts false (finishParts false children))
  | .image target children => .image target (linkTexts false (finishParts false children))
  | part => part

/-- `finishPart` for each part. -/
def finishParts (mail : Bool) : List Inline → List Inline
  | [] => []
  | part :: rest => finishPart mail part :: finishParts mail rest
end

/-- Inline content in its final form. -/
def finishInlines (mail : Bool) (parts : List Inline) : List Inline :=
  linkTexts mail (finishParts mail parts)

end Folio.Markdown
