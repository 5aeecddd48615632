/-!
# White space

The characters with the Unicode property `White_Space`, and trimming by it.

Main definitions:
- `Text.isSpace`: the class
- `Text.trim`, `Text.isBlankText`
-/

namespace Folio.Text

/-- Whether a character has the property `White_Space`. -/
def isSpace (c : Char) : Bool :=
  let n := c.toNat
  (0x09 ≤ n && n ≤ 0x0D) || n = 0x20 || n = 0x85 || n = 0xA0 || n = 0x1680
    || (0x2000 ≤ n && n ≤ 0x200A) || n = 0x2028 || n = 0x2029 || n = 0x202F || n = 0x205F
    || n = 0x3000

/-- Drop the characters at the end that satisfy `p`. -/
def dropEndWhile (p : Char → Bool) (cs : List Char) : List Char := (cs.reverse.dropWhile p).reverse

/-- Drop white space at both ends. -/
def trim (cs : List Char) : List Char := dropEndWhile isSpace (cs.dropWhile isSpace)

/-- Whether a text holds nothing but white space. -/
def isBlankText (cs : List Char) : Bool := cs.all isSpace

/-- The text without the given beginning, if it has it. -/
def stripStart? : List Char → List Char → Option (List Char)
  | [], cs => some cs
  | p :: ps, c :: cs => if p = c then stripStart? ps cs else none
  | _ :: _, [] => none


end Folio.Text
