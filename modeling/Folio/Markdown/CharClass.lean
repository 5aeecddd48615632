import Folio.Text.Blank
import Folio.Text.Ranges

/-!
# Classes of characters in Markdown

Main definitions:
- `Markdown.isSpacing`, `Markdown.isWideSpacing`: white space
- `Markdown.atLineEnd`, `Markdown.skipLineEnd`: the ends of lines
- `Markdown.isAsciiPunctuation`: the characters that a backslash escapes
- `Markdown.isPunctuation`: punctuation and symbols, which count in emphasis
-/

namespace Folio.Markdown

/-- A character that ends a line. -/
def isLineEnd (c : Char) : Bool := c = '\n' || c = '\r'

/-- A space or a tab. -/
def isSpaceOrTab (c : Char) : Bool := c = ' ' || c = '\t'

/-- White space in a line or between lines. -/
def isSpacing (c : Char) : Bool := isSpaceOrTab c || isLineEnd c

/-- White space in markup and in tables, where the two other separators of ASCII count as well. -/
def isWideSpacing (c : Char) : Bool := isSpacing c || c.toNat = 0x0B || c.toNat = 0x0C

/-- Whether a text begins with the end of its line, or is at its own end. -/
def atLineEnd (cs : List Char) : Bool := cs.head?.all isLineEnd

/-- The text after the line end at its front, if it begins with one. -/
def skipLineEnd (cs : List Char) : List Char :=
  match cs with
  | '\r' :: '\n' :: rest => rest
  | '\r' :: rest | '\n' :: rest => rest
  | rest => rest

/-- A text with the replacement character for each null character. -/
def replaceNulls (cs : List Char) : List Char :=
  cs.map fun c => if c.toNat = 0 then '\uFFFD' else c

/-- A punctuation character or symbol of ASCII. -/
def isAsciiPunctuation (c : Char) : Bool :=
  let n := c.toNat
  (33 ≤ n && n ≤ 47) || (58 ≤ n && n ≤ 64) || (91 ≤ n && n ≤ 96) || (123 ≤ n && n ≤ 126)

/-- The gaps and runs of the characters whose general category is punctuation or symbol, as of
version 8 of Unicode. -/
def punctuationRanges : Text.Ranges := Text.Ranges.ofGaps (Text.naturalsOf
  "33 15 10 7 26 6 26 4 34 9 1 2 1 4 2 1 1 3 2 1 3 1 23 1 31 1 458 4 12 14 5 7 1 1 1 17 117 1 8
    1 5 2 1 1 110 1 139 1 215 6 41 2 2 3 46 1 1 1 2 1 2 1 44 2 17 10 11 1 2 2 74 4 102 1 9 1 10
    1 19 2 1 14 232 4 54 15 31 1 261 2 10 1 129 2 6 2 244 2 126 1 130 8 132 1 249 1 122 1 74 1
    15 1 10 2 165 23 2 6 20 1 1 1 1 1 1 4 71 1 56 8 1 6 1 13 111 6 78 2 91 1 612 9 39 10 102 1
    620 2 44 2 78 3 71 2 157 3 1 4 36 11 309 1 3 2 152 34 30 2 128 7 1 6 172 17 9 9 127 4 59 5
    62 2 64 8 11 1 745 1 1 3 11 3 13 3 13 3 13 2 17 24 8 47 27 5 11 5 17 31 65 2 1 4 1 2 10 1 1
    3 5 6 1 1 1 1 1 1 4 1 11 2 4 5 5 4 1 1 58 2 4 619 5 39 25 11 81 78 22 630 30 992 2 32 2 34 3
    12 1 8 26 4 245 6 14 4 1 2 112 1 143 47 1 19 61 26 1 89 12 214 26 12 5 4 3 25 15 1 5 2 5 3
    91 2 3 1 90 1 148 2 4 10 32 36 28 31 11 30 8 1 15 32 10 39 15 63 1 256 6592 64 22160 55 55 2
    269 3 99 1 10 1 115 6 8 23 9 2 103 2 157 4 10 4 58 4 86 2 40 3 1 1 49 2 47 1 97 13 16 2 124
    4 23 3 100 2 16 2 105 1 143 1 20285 1 136 16 380 2 188 2 18 10 22 35 1 19 1 4 149 15 10 7 26
    6 26 11 122 7 1 7 13 2 258 3 52 9 57 17 2 1 3 12 4 1 47 45 418 1 48 1 414 1 743 1 31 2 166 1
    31 1 272 9 38 1 72 1 39 7 66 7 89 4 1194 7 109 2 1 4 126 4 48 2 79 4 4 1 13 1 1 3 88 6 107 1
    540 1 250 23 105 3 248 4 3376 5 17913 2 133 1 65 9 4 2 20822 1 2 1 4960 246 10 39 2 60 5 3
    22 2 7 30 4 59 23 66 3 1 186 87 874 1 25 1 31 1 25 1 31 1 25 1 31 1 25 1 31 1 25 1 60 512 55
    4 50 8 1 14 1 7 5220 2 270 44 4 100 12 15 2 15 1 15 1 37 26 31 1 60 4 43 75 29 13 43 5 9 7 2
    174 634 1 41 1 300 15 13 3 4 12 116 12 85 43 12 4 56 8 10 6 40 8 30 98 9 103 5 59 1")

/-- Whether a character is punctuation or a symbol. -/
def isPunctuation (c : Char) : Bool :=
  if c.toNat < 128 then isAsciiPunctuation c else punctuationRanges.contains c.toNat

end Folio.Markdown
