/-!
# Reading positions in YAML text

A cursor holds the text that is still to be read together with the position reached, since
indentation is what gives YAML its structure.

Main definitions:
- `Yaml.Cursor`: the rest of the text, and the position
- `Yaml.Cursor.skip`, `Yaml.Cursor.takeLine`: the two ways to move forward
- `Yaml.isStreamChar`: the characters a stream may hold
-/

namespace Folio.Yaml

/-! ## Section 1: Character classes -/

/-- The characters that a YAML stream may hold. -/
def isStreamChar (c : Char) : Bool :=
  let n := c.toNat
  n = 0x09 || n = 0x0A || n = 0x0D || (0x20 ≤ n && n ≤ 0x7E) || n = 0x85
    || (0xA0 ≤ n && n ≤ 0xD7FF) || (0xE000 ≤ n && n ≤ 0xFFFD) || 0x10000 ≤ n

/-- A space or a tab. -/
def isBlank (c : Char) : Bool := c = ' ' || c = '\t'

/-- A line break: carriage return, line feed, next line, line or paragraph separator. -/
def isBreak (c : Char) : Bool :=
  c = '\n' || c = '\r' || c.toNat = 0x85 || c.toNat = 0x2028 || c.toNat = 0x2029

/-- A character of an anchor's name: a letter, a digit, a dash or an underscore. -/
def isWordChar (c : Char) : Bool := c.isAlphanum || c = '-' || c = '_'

/-! ## Section 2: Cursors -/

/-- The rest of the text with the position in characters, lines and columns. -/
structure Cursor where
  rest : List Char
  index : Nat := 0
  line : Nat := 0
  column : Nat := 0
deriving Inhabited

namespace Cursor

/-- The character `k` places ahead. -/
def peek? (cur : Cursor) (k : Nat) : Option Char := cur.rest[k]?

/-- Whether the next character is `c`. -/
def sees (cur : Cursor) (c : Char) : Bool := cur.rest.head? = some c

/-- Whether the character `k` places ahead is a blank. -/
def blankAt (cur : Cursor) (k : Nat) : Bool := (cur.peek? k).any isBlank

/-- Whether the character `k` places ahead is a line break. -/
def breakAt (cur : Cursor) (k : Nat) : Bool := (cur.peek? k).any isBreak

/-- Whether a line ends `k` places ahead: by a break or with the text. -/
def lineEndAt (cur : Cursor) (k : Nat) : Bool := (cur.peek? k).all isBreak

/-- Whether a word ends `k` places ahead: by a blank or with the line. -/
def wordEndAt (cur : Cursor) (k : Nat) : Bool := (cur.peek? k).all fun c => isBlank c || isBreak c

/-- Move over one character within a line. -/
def skip (cur : Cursor) : Cursor :=
  { cur with rest := cur.rest.tail, index := cur.index + 1, column := cur.column + 1 }

/-- Move over `k` characters within a line. -/
def skipMany (cur : Cursor) (k : Nat) : Cursor :=
  { cur with rest := cur.rest.drop k, index := cur.index + k, column := cur.column + k }

/-- Move over a line break, a carriage return with its line feed being one. -/
def skipLine (cur : Cursor) : Cursor :=
  match cur.rest with
  | '\r' :: '\n' :: rest => ⟨rest, cur.index + 2, cur.line + 1, 0⟩
  | c :: rest => if isBreak c then ⟨rest, cur.index + 1, cur.line + 1, 0⟩ else cur
  | [] => cur

/-- What a line break counts as: a line feed, except for the two separators. -/
def breakText (cur : Cursor) : List Char :=
  match cur.rest with
  | c :: _ =>
      if c.toNat = 0x2028 || c.toNat = 0x2029 then [c] else if isBreak c then ['\n'] else []
  | [] => []

/-- Move over the characters of a line that satisfy `p`, and return them. -/
def takeWhile (p : Char → Bool) (cur : Cursor) : List Char × Cursor :=
  let taken := cur.rest.takeWhile p
  (taken, cur.skipMany taken.length)

/-- Move over the characters of a line that satisfy `p`. -/
def skipWhile (p : Char → Bool) (cur : Cursor) : Cursor := (cur.takeWhile p).2

/-- Whether three marks `c` that start a line and end with it, or a blank after them, come next. -/
def documentMarkAt (cur : Cursor) (c : Char) : Bool :=
  cur.column = 0 && cur.rest.take 3 = [c, c, c] && cur.wordEndAt 3

/-- Whether a document begins or ends here by an explicit mark. -/
def documentMark (cur : Cursor) : Bool := cur.documentMarkAt '-' || cur.documentMarkAt '.'

end Cursor

end Folio.Yaml
