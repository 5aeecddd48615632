import Folio.Markdown.CharClass

/-!
# Markup in angle brackets

Tags, comments and the other constructs of raw markup, and addresses in angle brackets.

Functions take the text after the opening bracket and give the length of the construct up to and
including the closing bracket.

Main definitions:
- `Markdown.rawMarkup?`: raw markup within a line of text
- `Markdown.uriAddress?`, `Markdown.emailAddress?`: addresses
- `Markdown.HtmlStart`, `Markdown.htmlStart?`, `Markdown.HtmlStart.endsWith`: blocks of raw markup
-/

namespace Folio.Markdown

/-! ## Section 1: Tags -/

/-- The rest of a text after white space, and how long that was. -/
def skipSpacing (cs : List Char) : Nat × List Char :=
  let spaces := cs.takeWhile isWideSpacing
  (spaces.length, cs.drop spaces.length)

/-- The name of a tag at the front of a text. -/
def tagName? : List Char → Option (Nat × List Char)
  | c :: rest =>
      if c.isAlpha then
        let name := rest.takeWhile fun c => c.isAlphanum || c = '-'
        some (name.length + 1, rest.drop name.length)
      else none
  | [] => none

/-- Whether a character can stand in a value without quotes. -/
def isBareValue (c : Char) : Bool :=
  !(isWideSpacing c || c = '"' || c = '\'' || c = '=' || c = '<' || c = '>' || c = '\x60' ||
    c.toNat = 0)

/-- The value of an attribute at the front of a text. -/
def attributeValue? (cs : List Char) : Option (Nat × List Char) :=
  let quoted (quote : Char) (rest : List Char) : Option (Nat × List Char) :=
    let inside := rest.takeWhile (· ≠ quote)
    match rest.drop inside.length with
    | _ :: after =>
        if inside.any (fun c => c.toNat = 0) then none else some (inside.length + 2, after)
    | [] => none
  match cs with
  | '"' :: rest => quoted '"' rest
  | '\'' :: rest => quoted '\'' rest
  | cs =>
      let value := cs.takeWhile isBareValue
      if value.isEmpty then none else some (value.length, cs.drop value.length)

/-- The attribute at the front of a text, with the white space that must stand before it. -/
def attribute? (cs : List Char) : Option (Nat × List Char) :=
  let (spaces, rest) := skipSpacing cs
  match rest with
  | c :: more =>
      if spaces = 0 || !(c.isAlpha || c = '_' || c = ':') then none
      else
        let name := more.takeWhile fun c => c.isAlphanum || c = ':' || c = '.' || c = '_' || c = '-'
        let length := spaces + 1 + name.length
        let after := more.drop name.length
        let (gap, beforeSign) := skipSpacing after
        match beforeSign with
        | '=' :: rest =>
            let (gap', beforeValue) := skipSpacing rest
            match attributeValue? beforeValue with
            | some (valueLength, after') => some (length + gap + 1 + gap' + valueLength, after')
            | none => some (length, after)
        | _ => some (length, after)
  | [] => none

/-- The attributes at the front of a text. -/
def attributes : Nat → List Char → Nat × List Char
  | 0, cs => (0, cs)
  | fuel + 1, cs =>
      match attribute? cs with
      | none => (0, cs)
      | some (length, rest) =>
          let (more, rest) := attributes fuel rest
          (length + more, rest)

/-- The length of an opening tag. -/
def openTag? (cs : List Char) : Option Nat := do
  let (nameLength, rest) ← tagName? cs
  let (attributesLength, rest) := attributes rest.length rest
  let (spaces, rest) := skipSpacing rest
  match rest with
  | '/' :: '>' :: _ => some (nameLength + attributesLength + spaces + 2)
  | '>' :: _ => some (nameLength + attributesLength + spaces + 1)
  | _ => none

/-- The length of a closing tag. -/
def closeTag? : List Char → Option Nat
  | '/' :: cs => do
      let (nameLength, rest) ← tagName? cs
      let (spaces, rest) := skipSpacing rest
      match rest with
      | '>' :: _ => some (nameLength + spaces + 2)
      | _ => none
  | _ => none

/-- The length of an opening or closing tag. -/
def anyTag? (cs : List Char) : Option Nat := (openTag? cs).or (closeTag? cs)

/-! ## Section 2: Other markup -/

/-- How long a text is up to and including an ending of two signs and a closing bracket. Two signs
that another character follows are passed over with it, as is one sign that no other one follows. -/
def throughDouble? (sign : Char) : List Char → Option Nat
  | [] => none
  | [_] => none
  | [_, _] => none
  | a :: b :: c :: rest =>
      if a ≠ sign then (throughDouble? sign (b :: c :: rest)).map (· + 1)
      else if b ≠ sign then (throughDouble? sign (c :: rest)).map (· + 2)
      else if c = '>' then some 3
      else (throughDouble? sign rest).map (· + 3)

/-- How long a text is up to and including an ending of a question mark and a closing bracket. A
question mark that another character follows is passed over with it. -/
def throughQuestion? : List Char → Option Nat
  | [] => none
  | [_] => none
  | a :: b :: rest =>
      if a ≠ '?' then (throughQuestion? (b :: rest)).map (· + 1)
      else if b = '>' then some 2
      else (throughQuestion? rest).map (· + 2)

/-- How long a text is up to and including the first closing bracket. -/
def throughBracket? : List Char → Option Nat
  | [] => none
  | c :: rest => if c = '>' then some 1 else (throughBracket? rest).map (· + 1)

/-- Kinds of markup that an ending of their own closes. -/
inductive MarkupKind where
  | comment
  | characterData
  | declaration
  | instruction
deriving DecidableEq, Inhabited

/-- What follows an opening bracket may be: a kind of markup, how long its opener is, and the length
from there through its ending. -/
structure MarkupAttempt where
  kind : MarkupKind
  opener : Nat
  rest : Option Nat

/-- The markup with an ending of its own that may follow an opening bracket. -/
def MarkupAttempt.of? : List Char → Option MarkupAttempt
  | '!' :: '-' :: '-' :: '>' :: _ => some ⟨.comment, 4, some 0⟩
  | '!' :: '-' :: '-' :: '-' :: '>' :: _ => some ⟨.comment, 5, some 0⟩
  | '!' :: '-' :: '-' :: rest => some ⟨.comment, 3, throughDouble? '-' rest⟩
  | '!' :: '[' :: 'C' :: 'D' :: 'A' :: 'T' :: 'A' :: '[' :: rest =>
      some ⟨.characterData, 8, throughDouble? ']' rest⟩
  | '!' :: c :: rest => if c.isAlpha then some ⟨.declaration, 2, throughBracket? rest⟩ else none
  | '?' :: rest => some ⟨.instruction, 1, throughQuestion? rest⟩
  | _ => none

/-- The length of the raw markup after an opening bracket. Where the ending of one kind of markup is
missing once, no markup of that kind is looked for in the same text, and without the ending of a
comment neither are declarations and character data; `missing` holds the kinds so far. -/
def rawMarkup? (missing : List MarkupKind) (cs : List Char) : Option Nat × List MarkupKind :=
  match MarkupAttempt.of? cs with
  | none => (anyTag? cs, missing)
  | some attempt =>
      let afterMark := attempt.kind ≠ .instruction
      if missing.contains attempt.kind || (afterMark && missing.contains .comment) then
        (none, missing)
      else
        match attempt.rest with
        | some length => (some (attempt.opener + length), missing)
        | none => (none, attempt.kind :: missing)

/-! ## Section 3: Addresses in angle brackets -/

/-- The length of an absolute address with its closing bracket. -/
def uriAddress? (cs : List Char) : Option Nat :=
  let scheme := cs.takeWhile fun c => c.isAlphanum || c = '+' || c = '.' || c = '-'
  if scheme.length < 2 || scheme.length > 32 || !(scheme.head?.any Char.isAlpha) then none
  else
    match cs.drop scheme.length with
    | ':' :: rest =>
        let path := rest.takeWhile fun c => c.toNat > 32 && c ≠ '<' && c ≠ '>'
        match rest.drop path.length with
        | '>' :: _ => some (scheme.length + path.length + 2)
        | _ => none
    | _ => none

/-- Whether a character can stand before the sign of a mail address. -/
def isMailCharacter (c : Char) : Bool :=
  c.isAlphanum || ".!#$%&'*+/=?^_\x60\x7b|\x7d~-".toList.contains c

/-- Whether a text is a part of a host name. -/
def isHostPart (cs : List Char) : Bool :=
  !cs.isEmpty && cs.length ≤ 63 && cs.all (fun c => c.isAlphanum || c = '-')
    && cs.head? ≠ some '-' && cs.getLast? ≠ some '-'

/-- The parts of a text between dots. -/
def dotParts : List Char → List (List Char)
  | [] => [[]]
  | c :: rest =>
      match dotParts rest with
      | [] => [[c]]
      | part :: more => if c = '.' then [] :: part :: more else (c :: part) :: more

/-- The length of a mail address with its closing bracket. -/
def emailAddress? (cs : List Char) : Option Nat :=
  let user := cs.takeWhile isMailCharacter
  match cs.drop user.length with
  | '@' :: rest =>
      let host := rest.takeWhile fun c => c.isAlphanum || c = '-' || c = '.'
      match rest.drop host.length with
      | '>' :: _ =>
          if !user.isEmpty && (dotParts host).all isHostPart then
            some (user.length + host.length + 2)
          else none
      | _ => none
  | _ => none

/-! ## Section 4: Blocks of raw markup -/

/-- What a block of raw markup begins with, which tells how it ends. -/
inductive HtmlStart where
  | verbatim
  | comment
  | instruction
  | declaration
  | characterData
  | blockTag
  | otherTag
deriving DecidableEq, Inhabited

/-- The names of tags whose content is verbatim. -/
def verbatimNames : List String := ["script", "pre", "textarea", "style"]

/-- The names of tags that begin a block. -/
def blockNames : List String :=
  ["address", "article", "aside", "base", "basefont", "blockquote", "body", "caption", "center",
    "col", "colgroup", "dd", "details", "dialog", "dir", "div", "dl", "dt", "fieldset",
    "figcaption", "figure", "footer", "form", "frame", "frameset", "h1", "h2", "h3", "h4", "h5",
    "h6", "head", "header", "hr", "html", "iframe", "legend", "li", "link", "main", "menu",
    "menuitem", "nav", "noframes", "ol", "optgroup", "option", "p", "param", "search", "section",
    "summary", "table", "tbody", "td", "tfoot", "th", "thead", "title", "tr", "track", "ul"]

/-- The letters and digits at the front of a text in lower case, and what follows. -/
def lowerName (cs : List Char) : String × List Char :=
  let name := cs.takeWhile Char.isAlphanum
  (String.ofList (name.map Char.toLower), cs.drop name.length)

/-- What a line begins with, after its opening bracket. A tag of any name counts only where a
paragraph cannot go on. -/
def htmlStart? (interruptsParagraph : Bool) (cs : List Char) : Option HtmlStart :=
  let (name, after) := lowerName cs
  let slashed := cs.head? = some '/'
  let (blockName, afterBlock) := if slashed then lowerName (cs.drop 1) else (name, after)
  let endsName (cs : List Char) : Bool := cs.head?.any fun c => isWideSpacing c || c = '>'
  if verbatimNames.contains name && endsName after then some .verbatim
  else if ['!', '-', '-'].isPrefixOf cs then some .comment
  else if cs.head? = some '?' then some .instruction
  else if "![CDATA[".toList.isPrefixOf cs then some .characterData
  else if cs.head? = some '!' && (cs.drop 1).head?.any Char.isAlpha then some .declaration
  else if blockNames.contains blockName
      && (endsName afterBlock || ['/', '>'].isPrefixOf afterBlock) then some .blockTag
  else if interruptsParagraph then none
  else
    match anyTag? cs with
    | some length =>
        let after := (cs.drop length).dropWhile fun c => isSpaceOrTab c || c.toNat = 0x0C
        if atLineEnd after then some .otherTag else none
    | none => none

/-- Whether a text holds another one, in any case of letters. -/
def holds (part : List Char) : List Char → Bool
  | [] => part.isEmpty
  | c :: rest => part.isPrefixOf ((c :: rest).map Char.toLower) || holds part rest

/-- Whether a line ends a block of raw markup. Blocks that begin with a tag end before a blank
line. -/
def HtmlStart.endsWith (start : HtmlStart) (line : List Char) : Bool :=
  let line := line.takeWhile fun c => c.toNat ≠ 0
  match start with
  | .verbatim => verbatimNames.any fun name => holds ("</" ++ name ++ ">").toList line
  | .comment => holds "-->".toList line
  | .instruction => holds "?>".toList line
  | .declaration => holds ">".toList line
  | .characterData => holds "]]>".toList line
  | .blockTag | .otherTag => false

end Folio.Markdown
