import Folio.Markdown.Footnote

/-!
# Documents as markup

A block begins on a line of its own. Of special characters those that end a text or a value are
written as references.

Main definitions:
- `Markdown.escapeHtml`, `Markdown.escapeUrl`: texts and addresses in markup
- `Markdown.inlineHtml`: inline content
- `Markdown.documentHtml`: a document
-/

namespace Folio.Markdown

/-! ## Section 1: Texts and addresses -/

/-- A character of a text. -/
def escapeChar (c : Char) : String :=
  if c = '"' then "&quot;"
  else if c = '&' then "&amp;"
  else if c = '<' then "&lt;"
  else if c = '>' then "&gt;"
  else c.toString

/-- A text in which no character is special. -/
def escapeHtml (cs : List Char) : String := String.join (cs.map escapeChar)

/-- The hexadecimal digit for a number below sixteen. -/
def hexDigit (n : Nat) : Char := ("0123456789ABCDEF".toList[n]?).getD '0'

/-- A character of an address other than a percent sign. -/
def escapeUrlChar (c : Char) : String :=
  if c.isAlphanum || "-_.+!*(),#@?=;:/$~".toList.contains c then c.toString
  else if c = '&' then "&amp;"
  else if c = '\'' then "&#x27;"
  else
    String.join (c.toString.toUTF8.toList.map fun b =>
      String.ofList ['%', hexDigit (b.toNat / 16), hexDigit (b.toNat % 16)])

/-- The characters of an address. A percent sign before two hexadecimal digits stays. -/
def escapeUrlChars : List Char → String
  | [] => ""
  | '%' :: rest =>
      let isDigit (c : Option Char) : Bool := c.any fun c => (Decimal.hexDigit? c).isSome
      (if isDigit rest.head? && isDigit (rest.drop 1).head? then "%" else "%25")
        ++ escapeUrlChars rest
  | c :: rest => escapeUrlChar c ++ escapeUrlChars rest

/-- How long the zone of a host is that is a number: `%25` and letters or digits. -/
def zoneLength (cs : List Char) : Nat :=
  match cs with
  | '%' :: '2' :: '5' :: rest =>
      let zone := rest.takeWhile Char.isAlphanum
      if zone.isEmpty then 0 else zone.length + 3
  | _ => 0

/-- How long the start of an address is if its host is a number in brackets, which stay; else
zero. -/
def bracketedHostLength (url : List Char) : Nat :=
  let lower := url.map Char.toLower
  let scheme :=
    if "http://[".toList.isPrefixOf lower then 8
    else if "https://[".toList.isPrefixOf lower then 9 else 0
  if scheme = 0 then 0
  else
    let digits := ((url.drop scheme).takeWhile fun c => (Decimal.hexDigit? c).isSome || c = ':').length
    let zone := zoneLength (url.drop (scheme + digits))
    let length := scheme + digits + zone
    if digits = 0 then 0
    else if url[length]? = some ']' then length + 1 else 0

/-- An address in which no character is special. -/
def escapeUrl (url : String) : String :=
  let cs := url.toList
  let kept := bracketedHostLength cs
  String.ofList (cs.take kept) ++ escapeUrlChars (cs.drop kept)

/-- The kinds of pictures that an address may contain. -/
def pictureKinds : List String := ["png", "gif", "jpeg", "webp"]

/-- Whether an address may do something. -/
def isDangerous (url : String) : Bool :=
  let cs := url.toList.map Char.toLower
  let startsWith (scheme : String) : Bool := scheme.toList.isPrefixOf cs
  startsWith "javascript:" || startsWith "vbscript:" || startsWith "file:"
    || (startsWith "data:" && !(pictureKinds.any fun kind => startsWith ("data:image/" ++ kind)))

/-- What stands for markup that is left out. -/
def omittedMarkup : String := "<!-- raw HTML omitted -->"

/-! ## Section 2: Inline content -/

mutual
/-- Inline content as text: without markup, and with spaces between lines. -/
def plainHtml : Inline → String
  | .text cs | .code cs | .html cs => escapeHtml cs
  | .escaped c => escapeHtml [c]
  | .softBreak | .lineBreak => " "
  | .emphasis children | .strong children | .strikethrough children => plainHtmlOf children
  | .link _ children | .image _ children => plainHtmlOf children
  | .footnoteName _ | .footnote _ => ""

/-- Inline content as text. -/
def plainHtmlOf : List Inline → String
  | [] => ""
  | part :: rest => plainHtml part ++ plainHtmlOf rest
end

/-- An attribute of a tag, unless its value is empty. -/
def titleAttribute (title : String) : String :=
  if title.isEmpty then "" else " title=\"" ++ escapeHtml title.toList ++ "\""

/-- The address of a target, unless it may do something. -/
def addressOf (options : Options) (target : LinkTarget) : String :=
  if options.unsafeHtml || !isDangerous target.url then escapeUrl target.url else ""

/-- A number that tells references to one footnote apart, from the second one on. -/
def occurrenceMark (occurrence : Nat) : String :=
  if occurrence > 1 then "-" ++ toString occurrence else ""

/-- A reference to a footnote. -/
def footnoteMarkHtml (mark : FootnoteMark) : String :=
  let name := escapeUrl (String.ofList mark.name)
  "<sup class=\"footnote-ref\"><a href=\"#fn-" ++ name ++ "\" id=\"fnref-" ++ name
    ++ occurrenceMark mark.occurrence ++ "\" data-footnote-ref>" ++ toString mark.number
    ++ "</a></sup>"

mutual
/-- A part of inline content. -/
def inlinePartHtml (options : Options) : Inline → String
  | .text cs => escapeHtml cs
  | .escaped c => escapeHtml [c]
  | .softBreak => "\n"
  | .lineBreak => "<br />\n"
  | .code cs => "<code>" ++ escapeHtml cs ++ "</code>"
  | .html cs => if options.unsafeHtml then String.ofList cs else omittedMarkup
  | .emphasis children => "<em>" ++ inlineHtml options children ++ "</em>"
  | .strong children => "<strong>" ++ inlineHtml options children ++ "</strong>"
  | .strikethrough children => "<del>" ++ inlineHtml options children ++ "</del>"
  | .link target children =>
      "<a href=\"" ++ addressOf options target ++ "\"" ++ titleAttribute target.title ++ ">"
        ++ inlineHtml options children ++ "</a>"
  | .image target children =>
      "<img src=\"" ++ addressOf options target ++ "\" alt=\"" ++ plainHtmlOf children ++ "\""
        ++ titleAttribute target.title ++ " />"
  | .footnoteName _ => ""
  | .footnote mark => footnoteMarkHtml mark

/-- Inline content. -/
def inlineHtml (options : Options) : List Inline → String
  | [] => ""
  | part :: rest => inlinePartHtml options part ++ inlineHtml options rest
end

/-! ## Section 3: Pages -/

/-- Markup so far. -/
structure Page where
  text : String := ""
  /-- How many footnotes were begun. -/
  footnotes : Nat := 0
  /-- The last footnote from which a link leads back. -/
  linkedBack : Nat := 0
deriving Inhabited

namespace Page

/-- Add markup. -/
def write (s : String) (page : Page) : Page := { page with text := page.text ++ s }

/-- Begin a new line, unless one has just begun. -/
def freshLine (page : Page) : Page :=
  if page.text.isEmpty || page.text.endsWith "\n" then page else page.write "\n"

/-- Links from a footnote back to the references to it. -/
def backLinks (name : List Char) (number references : Nat) : String :=
  let link (i : Nat) : String :=
    let occurrence := occurrenceMark (i + 1)
    (if i > 0 then " " else "")
      ++ "<a href=\"#fnref-" ++ escapeUrl (String.ofList name) ++ occurrence
      ++ "\" class=\"footnote-backref\" data-footnote-backref data-footnote-backref-idx=\""
      ++ toString number ++ occurrence ++ "\" aria-label=\"Back to reference " ++ toString number
      ++ occurrence ++ "\">↩"
      ++ (if i > 0 then "<sup class=\"footnote-ref\">" ++ toString (i + 1) ++ "</sup>" else "")
      ++ "</a>"
  String.join ((List.range references).map link)

/-- Link back from the current footnote, unless that was done. -/
def linkBack (name : List Char) (references : Nat) (page : Page) : Page :=
  if page.linkedBack ≥ page.footnotes then page
  else
    { page.write (backLinks name page.footnotes references) with linkedBack := page.footnotes }

end Page

/-! ## Section 4: Blocks -/

/-- Code with the first word about it as its language. If that is all there is about it, and it is
`math`, the code is a formula. -/
def codeHtml (info text : List Char) : String :=
  let language := info.takeWhile fun c => !isSpacing c
  let style := if String.ofList info = "math" then " data-math-style=\"display\"" else ""
  let tag := if info.isEmpty then "<pre><code>"
    else "<pre><code class=\"language-" ++ escapeHtml language ++ "\"" ++ style ++ ">"
  tag ++ escapeHtml text ++ "</code></pre>\n"

/-- The attribute for an alignment. -/
def Alignment.attribute : Alignment → String
  | .unset => ""
  | .left => " align=\"left\""
  | .center => " align=\"center\""
  | .right => " align=\"right\""

/-- A row of a table with a tag around each cell. -/
def rowHtml (options : Options) (tag : String) (alignments : List Alignment)
    (cells : List (List Inline)) : String :=
  let cell (alignment : Alignment) (content : List Inline) : String :=
    "<" ++ tag ++ alignment.attribute ++ ">" ++ inlineHtml options content ++ "</" ++ tag ++ ">\n"
  "<tr>\n" ++ String.join (List.zipWith cell alignments cells) ++ "</tr>\n"

/-- A table. -/
def tableHtml (options : Options) (alignments : List Alignment) (header : List (List Inline))
    (rows : List (List (List Inline))) : String :=
  let body := if rows.isEmpty then "" else
    "<tbody>\n" ++ String.join (rows.map (rowHtml options "td" alignments)) ++ "</tbody>\n"
  "<table>\n<thead>\n" ++ rowHtml options "th" alignments header ++ "</thead>\n" ++ body
    ++ "</table>\n"

/-- The opening tag of a list. -/
def listTag (kind : ListKind) (start : Nat) : String :=
  match kind with
  | .bullet _ => "<ul>\n"
  | .numbered _ => if start = 1 then "<ol>\n" else "<ol start=\"" ++ toString start ++ "\">\n"

/-- The box before a task. -/
def boxHtml : Option Bool → String
  | none => ""
  | some done =>
      "<input type=\"checkbox\"" ++ (if done then " checked=\"\"" else "") ++ " disabled=\"\" /> "

/-- Where a block stands. -/
structure Place where
  /-- Whether it is in a tight list. -/
  tight : Bool := false
  /-- The footnote of which it is the last block, and the number of references to that. -/
  footnote : Option (List Char × Nat) := none
deriving Inhabited

/-- A paragraph at a place. -/
def writeParagraph (options : Options) (place : Place) (content : List Inline) (page : Page) :
    Page :=
  if place.tight then page.write (inlineHtml options content)
  else
    let page := page.freshLine.write ("<p>" ++ inlineHtml options content)
    let page := match place.footnote with
      | some (name, references) => (page.write " ").linkBack name references
      | none => page
    page.write "</p>\n"

mutual
/-- A block at a place. -/
def writeBlock (options : Options) (place : Place) : Block (List Inline) → Page → Page
  | .paragraph content, page => writeParagraph options place content page
  | .heading level content, page =>
      let tag := "h" ++ toString level ++ ">"
      page.freshLine.write ("<" ++ tag ++ inlineHtml options content ++ "</" ++ tag ++ "\n")
  | .rule, page => page.freshLine.write "<hr />\n"
  | .code info text, page => page.freshLine.write (codeHtml info text)
  | .html text, page =>
      (page.freshLine.write (if options.unsafeHtml then String.ofList text else omittedMarkup)).freshLine
  | .quote children, page =>
      ((writeBlocks options {} none children (page.freshLine.write "<blockquote>\n")).freshLine).write
        "</blockquote>\n"
  | .list kind start tight items, page =>
      let close := match kind with
        | .bullet _ => "</ul>\n"
        | .numbered _ => "</ol>\n"
      (writeBlocks options { tight } none items (page.freshLine.write (listTag kind start))).write close
  | .item done children, page =>
      (writeBlocks options place none children
        (page.freshLine.write ("<li>" ++ boxHtml done))).write "</li>\n"
  | .table alignments header rows, page =>
      page.freshLine.write (tableHtml options alignments header rows)
  | .footnote name references children, page =>
      let page := if page.footnotes > 0 then page
        else page.write "<section class=\"footnotes\" data-footnotes>\n<ol>\n"
      let page := { page with footnotes := page.footnotes + 1 }
      let page := page.write ("<li id=\"fn-" ++ escapeUrl (String.ofList name) ++ "\">")
      let page := writeBlocks options {} (some (name, references)) children page
      let page := if page.linkedBack ≥ page.footnotes then page
        else (page.linkBack name references).write "\n"
      page.write "</li>\n"

/-- Blocks at a place; the last one may be the last one of a footnote. -/
def writeBlocks (options : Options) (place : Place) (footnote : Option (List Char × Nat)) :
    List (Block (List Inline)) → Page → Page
  | [], page => page
  | block :: rest, page =>
      let here : Place := { place with footnote := if rest.isEmpty then footnote else none }
      writeBlocks options place footnote rest (writeBlock options here block page)
end

/-- A document. -/
def documentHtml (options : Options) (blocks : List (Block (List Inline))) : String :=
  let page := writeBlocks options {} none blocks {}
  if page.footnotes > 0 then page.text ++ "</ol>\n</section>\n" else page.text

end Folio.Markdown
