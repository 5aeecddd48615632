import Folio.Decimal.Digits
import Folio.Value

/-!
# Scalars of settings files

Texts, numbers, booleans and times as TOML 1.0 writes them. A scanner takes the text that is left
and gives what it read with the text after it, or nothing if the text is malformed.

Main definitions:
- `Toml.Scan`: the scanners
- `Toml.quotedText`: a text in one of the four kinds of quotes
- `Toml.number`, `Toml.moment`: numbers; dates and times
- `Toml.scalar`: any scalar
-/

namespace Folio.Toml

/-! ## Section 1: Scanners -/

/-- A scanner: what it read and the text after it. -/
abbrev Scan (α : Type) := List Char → Option (α × List Char)

/-- A space within a line. -/
def isBlank (c : Char) : Bool := c = ' ' || c = '\t'

/-- The text after spaces within a line. -/
def skipBlanks (cs : List Char) : List Char := cs.dropWhile isBlank

/-- The text after a line break; nothing if there is none. -/
def lineBreak? : List Char → Option (List Char)
  | '\n' :: rest => some rest
  | '\r' :: '\n' :: rest => some rest
  | _ => none

/-- A character that may stand as itself in comments and between quotes. -/
def isPlainChar (c : Char) : Bool := c = '\t' || (' ' ≤ c && c ≠ '\x7f')

/-- The text after an optional comment; a line break ends it. -/
def skipComment (cs : List Char) : List Char :=
  match cs with
  | '#' :: rest => rest.dropWhile isPlainChar
  | _ => cs

/-- The text after spaces, line breaks and, if they count as such, comments. Every step takes a
character. -/
def skipLinesFrom (comments : Bool) : Nat → List Char → List Char
  | 0, cs => cs
  | fuel + 1, cs =>
      let cs := skipBlanks cs
      let cs := if comments then skipComment cs else cs
      match lineBreak? cs with
      | some rest => skipLinesFrom comments fuel rest
      | none => cs

/-- The text after spaces, line breaks and comments. -/
def skipLines (cs : List Char) : List Char := skipLinesFrom true cs.length cs

/-- The text after spaces and line breaks. -/
def skipSpace (cs : List Char) : List Char := skipLinesFrom false cs.length cs

/-! ## Section 2: Quoted texts -/

/-- The character that an escape stands for, by what follows the backslash. -/
def escaped : Scan Char
  | 'b' :: rest => some ('\x08', rest)
  | 't' :: rest => some ('\t', rest)
  | 'n' :: rest => some ('\n', rest)
  | 'f' :: rest => some ('\x0c', rest)
  | 'r' :: rest => some ('\r', rest)
  | '"' :: rest => some ('"', rest)
  | '\\' :: rest => some ('\\', rest)
  | 'u' :: rest => numbered 4 rest
  | 'U' :: rest => numbered 8 rest
  | _ => none
where
  /-- A character by its number. -/
  numbered (count : Nat) (cs : List Char) : Option (Char × List Char) := do
    let n ← Decimal.hexNumber? count cs
    if n.isValidChar then some (Char.ofNat n, cs.drop count) else none

/-- How much of a text three or more quotes end, and how many quotes before them belong to it: up
to two. -/
def closingQuotes (quote : Char) (cs : List Char) : Option (Nat × List Char) :=
  let count := min 5 (cs.takeWhile (· = quote)).length
  if count < 3 then none else some (count - 3, cs.drop count)

/-- The text after a backslash that ends a line, and after the space that follows it. -/
def continuedLine? (cs : List Char) : Option (List Char) :=
  (lineBreak? (skipBlanks cs)).map skipSpace

/-- The rest of a text on one line. `raw` texts know no escapes. -/
def lineText (quote : Char) (raw : Bool) : Nat → List Char → Scan String
  | 0, _, _ => none
  | _ + 1, _, [] => none
  | fuel + 1, acc, c :: rest =>
      if c = quote then some (String.ofList acc.reverse, rest)
      else if c = '\\' && !raw then
        match escaped rest with
        | some (c, rest) => lineText quote raw fuel (c :: acc) rest
        | none => none
      else if isPlainChar c then lineText quote raw fuel (c :: acc) rest
      else none

/-- The rest of a text over several lines. A line break counts as one character. -/
def blockText (quote : Char) (raw : Bool) : Nat → List Char → Scan String
  | 0, _, _ => none
  | _ + 1, _, [] => none
  | fuel + 1, acc, c :: rest =>
      match closingQuotes quote (c :: rest) with
      | some (count, rest) => some (String.ofList (List.replicate count quote ++ acc).reverse, rest)
      | none =>
          match lineBreak? (c :: rest) with
          | some rest => blockText quote raw fuel ('\n' :: acc) rest
          | none =>
              if c = '\\' && !raw then
                match continuedLine? rest with
                | some rest => blockText quote raw fuel acc rest
                | none =>
                    match escaped rest with
                    | some (c, rest) => blockText quote raw fuel (c :: acc) rest
                    | none => none
              else if isPlainChar c then blockText quote raw fuel (c :: acc) rest
              else none

/-- A text on one line, after its opening quote. -/
def oneLine (quote : Char) (cs : List Char) : Option (String × List Char) :=
  lineText quote (quote = '\'') (cs.length + 1) [] cs

/-- A text over several lines, after its opening quotes. A line break right after them does not
count. -/
def manyLines (quote : Char) (cs : List Char) : Option (String × List Char) :=
  blockText quote (quote = '\'') (cs.length + 1) [] ((lineBreak? cs).getD cs)

/-- A text between quotes of any kind. -/
def quotedText : Scan String
  | '"' :: '"' :: '"' :: rest => manyLines '"' rest
  | '\'' :: '\'' :: '\'' :: rest => manyLines '\'' rest
  | '"' :: rest => oneLine '"' rest
  | '\'' :: rest => oneLine '\'' rest
  | _ => none

/-! ## Section 3: Numbers -/

/-- Whether low lines stand one by one between digits. -/
def isGrouped (run : List Char) : Bool :=
  run.head?.any (· ≠ '_') && run.getLast?.any (· ≠ '_')
    && !((run.zip run.tail).any fun (a, b) => a = '_' && b = '_')

/-- Digits that may be grouped by single low lines: the digits alone. -/
def groupedDigits (isDigit : Char → Bool) (cs : List Char) : Option (List Char × List Char) :=
  let run := cs.takeWhile fun c => isDigit c || c = '_'
  if isGrouped run then some (run.filter isDigit, cs.drop run.length) else none

/-- An optional sign. -/
def sign : List Char → List Char × List Char
  | '+' :: rest => (['+'], rest)
  | '-' :: rest => (['-'], rest)
  | cs => ([], cs)

/-- Decimal digits without a needless zero in front. -/
def wholeDigits : Scan (List Char)
  | '0' :: rest => some (['0'], rest)
  | cs => groupedDigits Char.isDigit cs

/-- The least and the greatest whole number. -/
def fitInt? (n : Int) : Option Int := if -(Nat.pow 2 63) ≤ n ∧ n < Nat.pow 2 63 then some n else none

/-- A number in another base, after its mark. -/
def basedNumber (base : Nat) (cs : List Char) : Option (Value × List Char) := do
  let (digits, rest) ← groupedDigits (fun c => (Decimal.digitsInBase? base [c]).isSome) cs
  let n ← Decimal.digitsInBase? base digits
  return (.int (← fitInt? n), rest)

/-- An optional exponent: its spelling. -/
def exponent : Scan (List Char)
  | [] => some ([], [])
  | e :: cs =>
      if e = 'e' || e = 'E' then do
        let (s, cs) := sign cs
        let (digits, rest) ← groupedDigits Char.isDigit cs
        return ('e' :: s ++ digits, rest)
      else some ([], e :: cs)

/-- An optional fraction: its spelling. -/
def fraction : Scan (List Char)
  | '.' :: cs => (groupedDigits Char.isDigit cs).map fun (digits, rest) => ('.' :: digits, rest)
  | cs => some ([], cs)

/-- The value of a spelled float. One that is too large has none; one that is too small for its
sign is infinite. -/
def floatValue? (spelling : List Char) : Option Value := do
  let x ← Decimal.floatOfText? spelling
  if x == 1.0 / 0.0 then none
  else if x.isFinite then some (.float x) else some .null

/-- A decimal number, with its sign. -/
def decimalNumber (s cs : List Char) : Option (Value × List Char) := do
  let (whole, cs) ← wholeDigits cs
  let (fraction, cs) ← fraction cs
  let (exponent, cs) ← exponent cs
  if fraction.isEmpty && exponent.isEmpty then do
    let n ← Decimal.digitsInBase? 10 whole
    return (.int (← fitInt? (if s = ['-'] then -(n : Int) else n)), cs)
  else return (← floatValue? (s ++ whole ++ fraction ++ exponent), cs)

/-- A number. Infinity and what is no number have no value of their own. -/
def number (cs : List Char) : Option (Value × List Char) :=
  let (s, digits) := sign cs
  match cs, digits with
  | '0' :: 'x' :: rest, _ => basedNumber 16 rest
  | '0' :: 'o' :: rest, _ => basedNumber 8 rest
  | '0' :: 'b' :: rest, _ => basedNumber 2 rest
  | _, 'i' :: 'n' :: 'f' :: rest => some (.null, rest)
  | _, 'n' :: 'a' :: 'n' :: rest => some (.null, rest)
  | _, _ => decimalNumber s digits

/-! ## Section 4: Dates and times -/

/-- Exactly `count` digits: their number. -/
def fixedDigits (count : Nat) (cs : List Char) : Option (Nat × List Char) := do
  let n ← Decimal.digitsInBase? 10 (cs.take count)
  if (cs.take count).length = count then some (n, cs.drop count) else none

/-- The text after a character. -/
def after? (c : Char) : List Char → Option (List Char)
  | d :: rest => if d = c then some rest else none
  | [] => none

/-- A number with at least two digits. -/
def twoDigits (n : Nat) : String := if n < 10 then "0" ++ toString n else toString n

/-- A number with at least four digits. -/
def fourDigits (n : Nat) : String :=
  let digits := toString n
  String.ofList (List.replicate (4 - digits.length) '0') ++ digits

/-- How many days a month has. -/
def daysIn (year month : Nat) : Nat :=
  if month = 2 then
    if year % 4 = 0 && (year % 100 ≠ 0 || year % 400 = 0) then 29 else 28
  else if [4, 6, 9, 11].contains month then 30 else 31

/-- A day: its text. -/
def day (cs : List Char) : Option (String × List Char) := do
  let (y, cs) ← fixedDigits 4 cs
  let (m, cs) ← fixedDigits 2 (← after? '-' cs)
  let (d, cs) ← fixedDigits 2 (← after? '-' cs)
  if 1 ≤ m && m ≤ 12 && 1 ≤ d && d ≤ daysIn y m then
    some (fourDigits y ++ "-" ++ twoDigits m ++ "-" ++ twoDigits d, cs)
  else none

/-- The fraction of a second: its text, to nine digits and without zeros at the end. -/
def secondFraction (cs : List Char) : Option (String × List Char) :=
  match cs with
  | '.' :: rest =>
      let digits := rest.takeWhile Char.isDigit
      let kept := ((digits.take 9).reverse.dropWhile (· = '0')).reverse
      if digits.isEmpty then none
      else some (if kept.isEmpty then "" else "." ++ String.ofList kept, rest.drop digits.length)
  | _ => some ("", cs)

/-- A time of day: its text. -/
def timeOfDay (cs : List Char) : Option (String × List Char) := do
  let (h, cs) ← fixedDigits 2 cs
  let (m, cs) ← fixedDigits 2 (← after? ':' cs)
  let (s, cs) ← fixedDigits 2 (← after? ':' cs)
  let (f, cs) ← secondFraction cs
  if h ≤ 23 && m ≤ 59 && s ≤ 60 then
    some (twoDigits h ++ ":" ++ twoDigits m ++ ":" ++ twoDigits s ++ f, cs)
  else none

/-- An optional offset from universal time: its text. -/
def offset (cs : List Char) : Option (String × List Char) :=
  match cs with
  | 'Z' :: rest | 'z' :: rest => some ("Z", rest)
  | c :: rest =>
      if c = '+' || c = '-' then do
        let (h, rest) ← fixedDigits 2 rest
        let (m, rest) ← fixedDigits 2 (← after? ':' rest)
        if h ≤ 23 && m ≤ 59 then
          let mark := if c = '-' && h + m ≠ 0 then "-" else "+"
          some (mark ++ twoDigits h ++ ":" ++ twoDigits m, rest)
        else none
      else some ("", cs)
  | [] => some ("", cs)

/-- Whether digits and a colon begin a time. -/
def startsTime (cs : List Char) : Bool :=
  match cs with
  | a :: b :: ':' :: _ => a.isDigit && b.isDigit
  | _ => false

/-- Whether four digits and a hyphen begin a day. -/
def startsDay (cs : List Char) : Bool :=
  match cs with
  | a :: b :: c :: d :: '-' :: _ => [a, b, c, d].all Char.isDigit
  | _ => false

/-- A day, a time, or both with an optional offset: its text. -/
def moment (cs : List Char) : Option (String × List Char) :=
  if startsDay cs then do
    let (d, rest) ← day cs
    match rest with
    | c :: more =>
        if (c = 'T' || c = 't' || c = ' ') && startsTime more then do
          let (t, rest) ← timeOfDay more
          let (o, rest) ← offset rest
          some (d ++ "T" ++ t ++ o, rest)
        else some (d, rest)
    | [] => some (d, [])
  else timeOfDay cs

/-- The key under which a date or a time stands in the object that it becomes. -/
def momentKey : String := "$__toml_private_datetime"

/-! ## Section 5: Any scalar -/

/-- A scalar. -/
def scalar (cs : List Char) : Option (Value × List Char) :=
  match cs with
  | 't' :: 'r' :: 'u' :: 'e' :: rest => some (.bool true, rest)
  | 'f' :: 'a' :: 'l' :: 's' :: 'e' :: rest => some (.bool false, rest)
  | '"' :: _ | '\'' :: _ => (quotedText cs).map fun (s, rest) => (.str s, rest)
  | _ =>
      if startsDay cs || startsTime cs then
        (moment cs).map fun (s, rest) => (.object [(momentKey, .str s)], rest)
      else number cs

end Folio.Toml
