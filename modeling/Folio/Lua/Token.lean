import Folio.Lua.Fault
import Folio.Lua.Number

/-!
# Tokens

The words of a program: names, reserved words and signs, numbers and strings. White space and
comments separate them.

A program is read token by token, so that of two faults the first one in the text counts, whether it
is in a token or in the order of tokens.

Main definitions:
- `Lua.Token`
- `Lua.Scanner`: what is left of a text, and what messages need of what was read
- `Lua.Scanner.scan`: the next token
-/

namespace Folio.Lua

/-! ## Section 1: Tokens -/

/-- A token. -/
inductive Token where
  /-- A reserved word or a sign. -/
  | sign (s : String)
  | name (s : String)
  | str (s : Bytes)
  | number (n : Number)
  /-- A character that begins no other token. -/
  | other (c : Char)
  | ending
deriving Inhabited

/-- The reserved words. -/
def reservedWords : List String :=
  ["and", "break", "do", "else", "elseif", "end", "false", "for", "function", "goto", "if", "in",
    "local", "nil", "not", "or", "repeat", "return", "then", "true", "until", "while"]

/-- Whether a token is a reserved word or sign. -/
def Token.isSign (t : Token) (s : String) : Bool :=
  match t with
  | .sign s' => s' == s
  | _ => false

/-- What is left of a text. -/
structure Scanner where
  rest : List Char
  /-- The size of the whole text, which bounds all repetitions. -/
  size : Nat
  line : Nat := 1
  /-- What was read of the token, in reverse. -/
  text : List Char := []
deriving Inhabited

/-- A step of reading. -/
abbrev Scan (α : Type) := StateT Scanner (Except SyntaxError) α

/-- A token in a message. Names, numbers and strings stand as they are in the text, up to a zero
byte. -/
def Token.shown (t : Token) (text : List Char) : Bytes :=
  match t with
  | .sign s => Bytes.ofText ("'" ++ s ++ "'")
  | .other c =>
      if 32 ≤ c.toNat && c.toNat < 127 then Bytes.ofChars ['\'', c, '\'']
      else Bytes.ofText ("'<\\" ++ toString c.toNat ++ ">'")
  | .ending => Bytes.ofText "<eof>"
  | _ => Bytes.ofChars ('\'' :: text.reverse.takeWhile (·.toNat ≠ 0) ++ ['\''])

namespace Scan

/-- The next character. -/
def peek? : Scan (Option Char) := do return (← get).rest.head?

/-- Whether the next character satisfies a condition. -/
def sees (p : Char → Bool) : Scan Bool := do return (← get).rest.head?.any p

/-- Go past the next character. -/
def skip : Scan Unit := modify fun s => { s with rest := s.rest.drop 1 }

/-- Go past the next character, which belongs to the token. -/
def take : Scan Unit := modify fun s =>
  match s.rest with
  | [] => s
  | c :: rest => { s with rest, text := c :: s.text }

/-- Add characters to the token. -/
def add (cs : List Char) : Scan Unit := modify fun s => { s with text := cs.reverse ++ s.text }

/-- Take the last characters from the token. -/
def remove (count : Nat) : Scan Unit := modify fun s => { s with text := s.text.drop count }

/-- Forget what was read. -/
def clear : Scan Unit := modify fun s => { s with text := [] }

/-- Fail at the token that is being read. -/
def fail {α : Type} (fault : SyntaxFault) : Scan α := do
  let s ← get
  throw ⟨fault, s.line, some ((Token.name "").shown s.text)⟩

/-- Fail at the end of the text. -/
def failAtEnd {α : Type} (fault : SyntaxFault) : Scan α := do
  let s ← get
  throw ⟨fault, s.line, some (Token.ending.shown [])⟩

/-- Require a condition of what follows in a string. The next character stands in the message. -/
def require (condition : Bool) (fault : SyntaxFault) : Scan Unit := do
  if !condition then
    take
    fail fault

/-- Go past a line end, which may be two characters. -/
def lineEnd : Scan Unit := modify fun s =>
  match s.rest with
  | '\n' :: '\r' :: rest | '\r' :: '\n' :: rest => { s with rest, line := s.line + 1 }
  | _ :: rest => { s with rest, line := s.line + 1 }
  | [] => s

/-- Do something again as long as it says so, at most a number of times. -/
def again (step : Scan Bool) : Nat → Scan Unit
  | 0 => pure ()
  | fuel + 1 => do if ← step then again step fuel

/-- Do something again as long as it says so. -/
def repeating (step : Scan Bool) : Scan Unit := do again step ((← get).size + 1)

/-- Take characters that satisfy a condition. -/
def takeAll (p : Char → Bool) : Scan Unit := modify fun s =>
  let cs := s.rest.takeWhile p
  { s with rest := s.rest.drop cs.length, text := cs.reverse ++ s.text }

end Scan

open Scan

/-- Whether a character ends a line. -/
def isLineEnd (c : Char) : Bool := c = '\n' || c = '\r'

/-- Whether a character can begin a name. -/
def isNameStart (c : Char) : Bool := c.isAlpha || c = '_'

/-- Whether a character can stand in a name. -/
def isNameChar (c : Char) : Bool := c.isAlphanum || c = '_'

/-! ## Section 2: Long brackets -/

/-- What stands at a bracket. -/
inductive LongMark where
  /-- A long bracket, with its equals signs. -/
  | bracket (level : Nat)
  /-- A bracket by itself. -/
  | single
  /-- A bracket with equals signs but without another bracket. -/
  | broken

/-- Read the first half of a long bracket. -/
def longMark (bracket : Char) : Scan LongMark := do
  take
  let level := ((← get).rest.takeWhile (· == '=')).length
  takeAll (· == '=')
  if ← sees (· == bracket) then return .bracket level
  return if level = 0 then .single else .broken

/-- The content of a long bracket from its second opening bracket to the end, with both brackets. -/
def longContent (kind : String) (level : Nat) : Scan Unit := do
  let line := (← get).line
  take
  if ← sees isLineEnd then lineEnd
  repeating do
    match ← peek? with
    | none => failAtEnd (.unfinishedLong kind line)
    | some ']' =>
        match ← longMark ']' with
        | .bracket l =>
            if l = level then
              take
              return false
            return true
        | _ => return true
    | some c =>
        if isLineEnd c then
          add ['\n']
          lineEnd
        else take
        return true

/-- What was read without some characters on both sides. -/
def inside (count : Nat) : Scan Bytes := do
  let text := (← get).text
  return Bytes.ofChars ((text.drop count).reverse.drop count)

/-! ## Section 3: Strings -/

/-- The bytes of a code point of up to 31 bits, most significant bits first. -/
def encodePoint (n : Nat) : List Char :=
  let byte (k : Nat) : Char := Char.ofNat k
  let tail (shift : Nat) : Char := byte (0x80 + n / Nat.pow 64 shift % 64)
  if n < 0x80 then [byte n]
  else if n < 0x800 then [byte (0xC0 + n / 64), tail 0]
  else if n < 0x10000 then [byte (0xE0 + n / Nat.pow 64 2), tail 1, tail 0]
  else if n < 0x200000 then [byte (0xF0 + n / Nat.pow 64 3), tail 2, tail 1, tail 0]
  else if n < 0x4000000 then [byte (0xF8 + n / Nat.pow 64 4), tail 3, tail 2, tail 1, tail 0]
  else [byte (0xFC + n / Nat.pow 64 5), tail 4, tail 3, tail 2, tail 1, tail 0]

/-- The character that a letter after a backslash stands for. -/
def simpleEscape? (c : Char) : Option Nat :=
  match c with
  | 'a' => some 7
  | 'b' => some 8
  | 'f' => some 12
  | 'n' => some 10
  | 'r' => some 13
  | 't' => some 9
  | 'v' => some 11
  | '\\' => some 92
  | '"' => some 34
  | '\'' => some 39
  | _ => none

/-- Go to the next character, which must be a hexadecimal digit, for its value. -/
def hexDigitNext : Scan Nat := do
  take
  let digit := (← peek?).bind Decimal.hexDigit?
  require digit.isSome .hexExpected
  return digit.getD 0

/-- An escape by two hexadecimal digits, from its letter to before the last digit. -/
def hexEscape : Scan Nat := do
  let high ← hexDigitNext
  let low ← hexDigitNext
  remove 2
  return high * 16 + low

/-- The further digits of a code point, for its value and their number. The first one of them was not
taken. -/
def pointDigits : Nat → Nat → Nat → Scan (Nat × Nat)
  | 0, n, count => return (n, count)
  | fuel + 1, n, count => do
      take
      match (← peek?).bind Decimal.hexDigit? with
      | none => return (n, count)
      | some digit =>
          require (n ≤ 0x7FFFFFFF / 16) .pointTooLarge
          pointDigits fuel (n * 16 + digit) (count + 1)

/-- An escape by a code point, from its letter on. -/
def pointEscape : Scan Unit := do
  take
  require (← sees (· == '\x7b')) .missingOpening
  let first ← hexDigitNext
  let (n, count) ← pointDigits (← get).size first 4
  require (← sees (· == '\x7d')) .missingClosing
  skip
  remove count
  add (encodePoint n)

/-- An escape by up to three decimal digits, for its value. -/
def decimalEscape : Scan Nat := do
  let digits := ((← get).rest.takeWhile Char.isDigit).take 3
  modify fun s => { s with rest := s.rest.drop digits.length, text := digits.reverse ++ s.text }
  let n := (Decimal.digitsInBase? 10 digits).getD 0
  require (n ≤ 255) .decimalTooLarge
  remove digits.length
  return n

/-- Go past white space in a string. -/
def skipBlanks : Scan Unit := repeating do
  match ← peek? with
  | none => return false
  | some c =>
      if isLineEnd c then
        lineEnd
        return true
      else if isBlank c then
        skip
        return true
      else return false

/-- Put a character in place of the backslash before it. -/
def replaceBackslash (n : Nat) : Scan Unit := do
  remove 1
  add [Char.ofNat n]

/-- An escape from its backslash on. -/
def escape : Scan Unit := do
  take
  match ← peek? with
  | none => return
  | some 'x' =>
      let n ← hexEscape
      skip
      replaceBackslash n
  | some 'u' => pointEscape
  | some 'z' =>
      remove 1
      skip
      skipBlanks
  | some c =>
      match simpleEscape? c with
      | some n =>
          skip
          replaceBackslash n
      | none =>
          if isLineEnd c then
            lineEnd
            replaceBackslash 10
          else
            require c.isDigit .invalidEscape
            let n ← decimalEscape
            replaceBackslash n

/-- A string between quotation marks. -/
def quotedString (quote : Char) : Scan Token := do
  take
  repeating do
    match ← peek? with
    | none => failAtEnd .unfinishedString
    | some c =>
        if c = quote then return false
        else if isLineEnd c then fail .unfinishedString
        else if c = '\\' then escape
        else take
        return true
  take
  return .str (← inside 1)

/-! ## Section 4: Numbers and names -/

/-- A number. It takes all digits and points, exponents with their signs, and a letter after all that,
which makes it malformed. -/
def number : Scan Token := do
  let first ← peek?
  take
  let isHex ← if first = some '0' then sees fun c => c = 'x' || c = 'X' else pure false
  if isHex then take
  let isMark (c : Char) : Bool :=
    if isHex then c = 'p' || c = 'P' else c = 'e' || c = 'E'
  repeating do
    if ← sees isMark then
      take
      if ← sees fun c => c = '-' || c = '+' then take
      return true
    else if ← sees fun c => isHexDigit c || c = '.' then
      take
      return true
    else return false
  if ← sees isNameStart then take
  match Number.ofChars? (← get).text.reverse with
  | some n => return .number n
  | none => fail .malformedNumber

/-- A name or reserved word. -/
def word : Scan Token := do
  takeAll isNameChar
  let s := String.ofList (← get).text.reverse
  return if reservedWords.contains s then .sign s else .name s

/-! ## Section 5: All tokens -/

/-- Signs of several characters, longer ones first. -/
def longSigns : List String := ["<<", ">>", "//", "==", "~=", "<=", ">=", "::"]

/-- Signs of one character. -/
def shortSigns : List Char := "+-*/%^#&~|<>=()\x7b\x7d[];:,.".toList

/-- A comment after its two hyphens. -/
def comment : Scan Unit := do
  let mark ← if ← sees (· == '[') then longMark '[' else pure .single
  match mark with
  | .bracket level => longContent "comment" level
  | _ => modify fun s => { s with rest := s.rest.dropWhile fun c => !isLineEnd c }

/-- A sign. -/
def sign : Scan Token := do
  let rest := (← get).rest
  match longSigns.find? fun s => s.toList.isPrefixOf rest with
  | some s =>
      skip
      skip
      return .sign s
  | none =>
      skip
      match rest with
      | c :: _ => return if shortSigns.contains c then .sign (String.singleton c) else .other c
      | [] => return .ending

/-- What begins with a point: a number, or one to three points. -/
def pointed : Scan Token := do
  let rest := (← get).rest.drop 1
  if rest.head?.any Char.isDigit then
    take
    number
  else
    let points := (rest.takeWhile (· == '.')).length + 1
    let points := min points 3
    modify fun s => { s with rest := s.rest.drop points }
    return .sign (String.ofList (List.replicate points '.'))

/-- What begins with a bracket: a long string, or the bracket. -/
def bracketed : Scan Token := do
  match ← longMark '[' with
  | .bracket level =>
      longContent "string" level
      return .str (← inside (level + 2))
  | .single => return .sign "["
  | .broken => fail .longDelimiter

/-- The next token if one begins here; otherwise white space or a comment is gone past. -/
def scanHere : Scan (Option Token) := do
  clear
  match (← get).rest with
  | [] => return some .ending
  | c :: rest =>
      if isLineEnd c then
        lineEnd
        return none
      else if isBlank c then
        skip
        return none
      else if isNameStart c then some <$> word
      else if c.isDigit then some <$> number
      else if c = '"' || c = '\'' then some <$> quotedString c
      else if c = '.' then some <$> pointed
      else if c = '[' then some <$> bracketed
      else if c = '-' && rest.head? = some '-' then
        skip
        skip
        comment
        return none
      else some <$> sign

/-- The next token. Each step goes past a character. -/
def scanFrom : Nat → Scan Token
  | 0 => return .ending
  | fuel + 1 => do
      match ← scanHere with
      | some t => return t
      | none => scanFrom fuel

/-- The next token. -/
def scan : Scan Token := do scanFrom ((← get).size + 1)

end Folio.Lua
