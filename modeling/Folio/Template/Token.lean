import Folio.Decimal.Digits
import Folio.Template.Datum
import Folio.Text.Blank

/-!
# Template tokens

A template is text with tags in it: `{{ .. }}` for output, `{% .. %}` for statements and `{# .. #}`
for comments. A minus sign next to a delimiter removes the white space on that side of the tag.

A raw block is text up to its end tag, whatever stands in it. A tag ends at the first closing
delimiter outside brackets and quotes.

Main definitions:
- `Template.Token`
- `Template.tokens`: the tokens of a template
-/

namespace Folio.Template

/-- A part of a template. -/
inductive Token where
  | text (s : String)
  | openOutput
  | closeOutput
  | openStatement
  | closeStatement
  | name (s : String)
  | str (s : String)
  | int (n : Nat)
  | float (x : Float)
  | sign (s : String)
deriving Inhabited

namespace Token

/-- Whether a token is a given word. -/
def isWord (word : String) : Token → Bool
  | .name s => s = word
  | _ => false

/-- Whether a token is a given sign. -/
def isSign (sign : String) : Token → Bool
  | .sign s => s = sign
  | _ => false

end Token

/-! ## Section 1: Strings and numbers in tags -/

/-- White space inside a tag. -/
def isTagSpace (c : Char) : Bool :=
  c = ' ' || c = '\t' || c = '\n' || c = '\r' || c.toNat = 0x0C

/-- Whether a character can begin a name. -/
def beginsName (c : Char) : Bool := c.isAlpha || c = '_'

/-- Whether a character can continue a name. -/
def continuesName (c : Char) : Bool := c.isAlphanum || c = '_'

/-- The text between a quote and the next one that is not escaped, and what follows that. -/
def quotedPart (quote : Char) : List Char → Option (List Char × List Char)
  | [] => none
  | '\\' :: c :: rest =>
      (quotedPart quote rest).map fun (inside, after) => ('\\' :: c :: inside, after)
  | c :: rest =>
      if c = quote then some ([], rest)
      else (quotedPart quote rest).map fun (inside, after) => (c :: inside, after)

/-- An escape in a string of up to three octal digits. -/
def octalPart (cs : List Char) : List Char :=
  (cs.take 3).takeWhile fun c => '0' ≤ c && c ≤ '7'

/-- The value of octal digits. -/
def octalValue (cs : List Char) : Nat := cs.foldl (fun n c => 8 * n + (c.toNat - 48)) 0

/-- The meaning of the text between quotes. A surrogate that waits for its second half is given. A
backslash that escapes nothing stands for itself. -/
def unescape : Nat → Option Nat → List Char → Option (List Char)
  | 0, _, _ => none
  | _ + 1, pending, [] => if pending.isSome then none else some []
  | fuel + 1, pending, '\\' :: c :: rest =>
      let put (ch : Char) (rest : List Char) : Option (List Char) :=
        if pending.isSome then none else (unescape fuel none rest).map (ch :: ·)
      match c with
      | '"' | '\\' | '/' | '\'' => put c rest
      | 'b' => put '\x08' rest
      | 'f' => put '\x0C' rest
      | 'n' => put '\n' rest
      | 'r' => put '\r' rest
      | 't' => put '\t' rest
      | 'u' =>
          match Decimal.hexNumber? 4 rest with
          | none => none
          | some n =>
              match pending with
              | some high =>
                  if 0xDC00 ≤ n ∧ n < 0xE000 then
                    (unescape fuel none (rest.drop 4)).map
                      (Char.ofNat (0x10000 + (high - 0xD800) * 0x400 + (n - 0xDC00)) :: ·)
                  else none
              | none =>
                  if 0xD800 ≤ n ∧ n < 0xDC00 then unescape fuel (some n) (rest.drop 4)
                  else if 0xDC00 ≤ n ∧ n < 0xE000 then none
                  else put (Char.ofNat n) (rest.drop 4)
      | 'x' =>
          match Decimal.hexNumber? 2 rest with
          | none => none
          | some n => put (Char.ofNat n) (rest.drop 2)
      | c =>
          let digits := octalPart (c :: rest)
          if digits.isEmpty then put '\\' (c :: rest)
          else if octalValue digits > 255 then none
          else put (Char.ofNat (octalValue digits)) ((c :: rest).drop digits.length)
  | fuel + 1, pending, c :: rest =>
      if pending.isSome then none else (unescape fuel none rest).map (c :: ·)

/-- The parts of a number. -/
inductive NumberPart where
  | whole
  | fraction
  | exponent
  | afterSign
deriving DecidableEq

/-- The characters of a decimal number, and whether it is written as a float. -/
def decimalPart : NumberPart → List Char → List Char × Bool
  | part, [] => ([], part ≠ .whole)
  | part, c :: rest =>
      let next : Option NumberPart :=
        if c.isDigit then some (if part = .exponent then .afterSign else part)
        else if c = '_' then some part
        else
          match part with
          | .whole => if c = '.' then some .fraction else if c = 'e' || c = 'E' then some .exponent
              else none
          | .fraction => if c = 'e' || c = 'E' then some .exponent else none
          | .exponent => if c = '+' || c = '-' then some .afterSign else none
          | .afterSign => none
      match next with
      | none => ([], part ≠ .whole)
      | some part =>
          let (cs, isFloat) := decimalPart part rest
          (c :: cs, isFloat)

/-- The base that a number announces, if it is not ten. -/
def announcedBase? : List Char → Option Nat
  | '0' :: 'x' :: _ | '0' :: 'X' :: _ => some 16
  | '0' :: 'o' :: _ | '0' :: 'O' :: _ => some 8
  | '0' :: 'b' :: _ | '0' :: 'B' :: _ => some 2
  | _ => none

/-- The greatest whole number that can be written. -/
def maxWritten : Nat := Nat.pow 2 128 - 1

/-- The number at the front of a text, and how long it is. -/
def number? (cs : List Char) : Option (Token × Nat) :=
  match announcedBase? cs with
  | some base =>
      let digits := (cs.drop 2).takeWhile fun c =>
        c = '_' || (Decimal.hexDigit? c).any (· < (if base = 16 then 16 else 10))
      let values := (digits.filter (· ≠ '_')).map fun c => (Decimal.hexDigit? c).getD 0
      let n := values.foldl (fun n d => base * n + d) 0
      if digits.getLast? = some '_' || values.isEmpty || values.any (· ≥ base) || n > maxWritten
      then none
      else some (.int n, digits.length + 2)
  | none =>
      let (written, isFloat) := decimalPart .whole cs
      let plain := written.filter (· ≠ '_')
      if written.getLast? = some '_' then none
      else if isFloat then
        (Decimal.floatOfText? plain).map fun x => (.float x, written.length)
      else
        let n := plain.foldl (fun n c => 10 * n + (c.toNat - 48)) 0
        if n > maxWritten then none else some (.int n, written.length)

/-! ## Section 2: Tags -/

/-- What comes next in a tag: its end, with whether white space after it goes; a token; or a fault. -/
inductive TagStep where
  | close (trims : Bool) (rest : List Char)
  | token (t : Token) (rest : List Char)
  | fault (detail : String)

/-- The signs of two characters. -/
def doubleSigns : List String := ["//", "**", "==", "!=", ">=", "<="]

/-- The signs of one character. -/
def singleSigns : List Char :=
  ['+', '-', '*', '/', '%', '.', ',', ':', '~', '|', '=', '>', '<', '(', ')', '[', ']', '\x7b',
    '\x7d']

/-- The next step in a tag with the given closing delimiter. A number `afterDot` is an index and has
neither fraction nor exponent. -/
def tagStep (closing : List Char) (brackets : Int) (afterDot : Bool) (cs : List Char) : TagStep :=
  let closed? : Option TagStep :=
    if brackets ≠ 0 then none
    else
      match cs with
      | '-' :: rest => (Text.stripStart? closing rest).map (TagStep.close true)
      | '+' :: rest => (Text.stripStart? closing rest).map (TagStep.close false)
      | _ => (Text.stripStart? closing cs).map (TagStep.close false)
  match closed? with
  | some step => step
  | none =>
      match cs with
      | [] => .fault "unexpected end of template"
      | c :: rest =>
          let double := String.ofList (cs.take 2)
          if doubleSigns.contains double then .token (.sign double) (cs.drop 2)
          else if singleSigns.contains c then .token (.sign (String.singleton c)) rest
          else if c = '"' || c = '\'' then
            match quotedPart c rest with
            | none => .fault "unexpected end of string"
            | some (inside, after) =>
                match unescape (inside.length + 1) none inside with
                | none => .fault "bad escape in string"
                | some s => .token (.str (String.ofList s)) after
          else if c.isDigit then
            match number? (if afterDot then cs.takeWhile Char.isDigit else cs) with
            | none => .fault "bad number"
            | some (t, length) => .token t (cs.drop length)
          else if beginsName c then
            .token (.name (String.ofList (cs.takeWhile continuesName)))
              (cs.dropWhile continuesName)
          else .fault "unexpected character"

/-- How a sign changes the number of brackets that wait to be closed. -/
def bracketChange : Token → Int
  | .sign s =>
      if s = "(" || s = "[" || s = "\x7b" then 1
      else if s = ")" || s = "]" || s = "\x7d" then -1
      else 0
  | _ => 0

/-- The tokens in a tag, whether white space after it goes, and what follows it. -/
def tagTokens (closing : List Char) :
    Nat → Int → Bool → List Char → Except Fault (List Token × Bool × List Char)
  | 0, _, _, _ => .error (.malformed "unexpected end of template")
  | fuel + 1, brackets, afterDot, cs =>
      match tagStep closing brackets afterDot (cs.dropWhile isTagSpace) with
      | .fault detail => .error (.malformed detail)
      | .close trims rest => .ok ([], trims, rest)
      | .token t rest =>
          match tagTokens closing fuel (brackets + bracketChange t) (t.isSign ".") rest with
          | .error e => .error e
          | .ok (ts, trims, rest) => .ok (t :: ts, trims, rest)

/-! ## Section 3: Text between tags -/

/-- What a brace opens. -/
inductive Opening where
  | output
  | statement
  | comment

/-- What two characters open. -/
def opening? : List Char → Option Opening
  | '\x7b' :: '\x7b' :: _ => some .output
  | '\x7b' :: '%' :: _ => some .statement
  | '\x7b' :: '#' :: _ => some .comment
  | _ => none

/-- The text before the next tag, and the rest with that tag. -/
def leadingText : List Char → List Char × List Char
  | [] => ([], [])
  | c :: rest =>
      if (opening? (c :: rest)).isSome then ([], c :: rest)
      else
        let (lead, after) := leadingText rest
        (c :: lead, after)

/-- A sign next to a delimiter: whether it is there, and whether it removes white space. -/
def trimSign : List Char → Bool × List Char
  | '-' :: rest => (true, rest)
  | '+' :: rest => (false, rest)
  | cs => (false, cs)

/-- A tag that holds one given word, after its opening delimiter: whether white space after it goes,
and what follows it. -/
def wordTag? (word : String) (cs : List Char) : Option (Bool × List Char) :=
  match Text.stripStart? word.toList (cs.dropWhile isTagSpace) with
  | none => none
  | some rest =>
      let (trims, rest) := trimSign (rest.dropWhile isTagSpace)
      (Text.stripStart? ['%', '\x7d'] rest).map fun rest => (trims, rest)

/-- The text of a raw block up to its end tag, whether white space at its end goes, whether white
space after the end tag goes, and what follows that. -/
def rawText? : List Char → Option (List Char × Bool × Bool × List Char)
  | [] => none
  | c :: rest =>
      let closed : Option (Bool × Bool × List Char) :=
        match c, rest with
        | '\x7b', '%' :: inside =>
            let (trimsEnd, inside) := trimSign inside
            (wordTag? "endraw" inside).map fun (trims, after) => (trimsEnd, trims, after)
        | _, _ => none
      match closed with
      | some (trimsEnd, trims, after) => some ([], trimsEnd, trims, after)
      | none => (rawText? rest).map fun (text, more) => (c :: text, more)

/-- What follows the end of a comment, and whether white space goes there. -/
def afterComment? : Bool → List Char → Option (Bool × List Char)
  | _, [] => none
  | minus, '#' :: '\x7d' :: rest => some (minus, rest)
  | _, c :: rest => afterComment? (c = '-') rest

/-- A text as a token, unless it is empty. -/
def textToken (cs : List Char) : List Token :=
  if cs.isEmpty then [] else [.text (String.ofList cs)]

/-- The tokens of a template, given whether white space at its start goes. -/
def tokensFrom : Nat → Bool → List Char → Except Fault (List Token)
  | 0, _, _ => .ok []
  | fuel + 1, trims, cs =>
      let (lead, rest) := leadingText (if trims then cs.dropWhile Text.isSpace else cs)
      let (trimsLead, inside) := trimSign (rest.drop 2)
      let lead := textToken (if trimsLead then Text.dropEndWhile Text.isSpace lead else lead)
      let tag (start finish : Token) (closing : List Char) : Except Fault (List Token) :=
        match tagTokens closing (inside.length + 1) 0 false inside with
        | .error e => .error e
        | .ok (ts, trims, after) =>
            match tokensFrom fuel trims after with
            | .error e => .error e
            | .ok more => .ok (lead ++ start :: ts ++ finish :: more)
      match opening? rest with
      | none => .ok lead
      | some .comment =>
          match afterComment? false inside with
          | none => .error (.malformed "unexpected end of comment")
          | some (trims, after) => (tokensFrom fuel trims after).map (lead ++ ·)
      | some .output => tag .openOutput .closeOutput ['\x7d', '\x7d']
      | some .statement =>
          match wordTag? "raw" inside with
          | none => tag .openStatement .closeStatement ['%', '\x7d']
          | some (trimsStart, body) =>
              match rawText? body with
              | none => .error (.malformed "unexpected end of raw block")
              | some (text, trimsEnd, trims, after) =>
                  let text := if trimsStart then text.dropWhile Text.isSpace else text
                  let text := if trimsEnd then Text.dropEndWhile Text.isSpace text else text
                  (tokensFrom fuel trims after).map fun more => lead ++ textToken text ++ more

/-- The tokens of a template. -/
def tokens (source : String) : Except Fault (List Token) :=
  let cs := source.toList
  tokensFrom (cs.length + 1) false cs

end Folio.Template
