import Folio.Decimal.Digits
import Folio.Yaml.Cursor

/-!
# Scalars, tags and directives of YAML text

The lexemes of YAML and the readers of those that have an inner form: quoted, plain and block
scalars, tags, anchors and directives. A reader returns nothing where the text is malformed.

Main definitions:
- `Yaml.Token`: the lexemes
- `Yaml.readPlain`, `Yaml.readQuoted`, `Yaml.readBlock`: the three families of scalars
- `Yaml.readTag`, `Yaml.readDirective`
-/

namespace Folio.Yaml

/-- A lexeme of a YAML stream. -/
inductive Token where
  | streamEnd
  | version (major minor : Nat)
  | tagAbbreviation (handle expansion : String)
  | documentStart
  | documentEnd
  | blockSequenceStart
  | blockMappingStart
  | blockEnd
  | flowSequenceStart
  | flowSequenceEnd
  | flowMappingStart
  | flowMappingEnd
  | blockEntry
  | flowEntry
  | key
  | value
  | reference (name : String)
  | anchor (name : String)
  | tag (handle suffix : String)
  | scalar (plain : Bool) (text : String)
deriving DecidableEq, Inhabited

/-! ## Section 1: Folding of line breaks -/

/-- White space met within a scalar: blanks on the same line, or breaks. -/
structure Gap where
  /-- Whether a line break was met. -/
  broken : Bool := false
  blanks : List Char := []
  first : List Char := []
  further : List Char := []

namespace Gap

/-- What a gap amounts to: its blanks, a space for one break, or the further breaks. -/
def folded (gap : Gap) : List Char :=
  if gap.broken then
    if gap.first.head? = some '\n' then
      if gap.further.isEmpty then [' '] else gap.further
    else gap.first ++ gap.further
  else gap.blanks

/-- Read a gap. With `tabLimit`, a tab at a lower column after a break is refused. -/
def read (tabLimit : Option Nat) : Nat → Gap → Cursor → Option (Gap × Cursor)
  | 0, gap, cur => some (gap, cur)
  | fuel + 1, gap, cur =>
      if cur.blankAt 0 then
        if gap.broken then
          if tabLimit.any (fun limit => cur.column < limit) && cur.sees '\t' then none
          else read tabLimit fuel gap cur.skip
        else read tabLimit fuel { gap with blanks := gap.blanks ++ cur.rest.take 1 } cur.skip
      else if cur.breakAt 0 then
        if gap.broken then
          read tabLimit fuel { gap with further := gap.further ++ cur.breakText } cur.skipLine
        else
          read tabLimit fuel { gap with broken := true, blanks := [], first := cur.breakText }
            cur.skipLine
      else some (gap, cur)

end Gap

/-! ## Section 2: Plain scalars -/

/-- The indicators that end a plain scalar inside brackets. -/
def isFlowIndicator (c : Char) : Bool := c = ',' || c = '[' || c = ']' || c = '{' || c = '}'

/-- Read the words of a plain scalar, joined by their folded gaps.

`text` is what was read so far in reverse, `gap` the white space since. The result tells whether
the scalar was followed by a line break. -/
def readPlainFrom (inFlow : Bool) (indent : Nat) :
    Nat → List Char → Gap → Cursor → Option (List Char × Bool × Cursor)
  | 0, text, gap, cur => some (text.reverse, gap.broken, cur)
  | fuel + 1, text, gap, cur =>
      match cur.rest with
      | [] => some (text.reverse, gap.broken, cur)
      | c :: rest =>
          let finish := some (text.reverse, gap.broken, cur)
          if isBlank c || isBreak c then
            match Gap.read (some indent) cur.rest.length {} cur with
            | none => none
            | some (gap, cur) =>
                if !inFlow && cur.column < indent then some (text.reverse, gap.broken, cur)
                else if cur.documentMark || cur.sees '#' then some (text.reverse, gap.broken, cur)
                else readPlainFrom inFlow indent fuel text gap cur
          else
            let next := rest.head?
            if inFlow && c = ':' && next.any (fun d => isFlowIndicator d || d = '?') then none
            else if c = ':' && cur.wordEndAt 1 then finish
            else if inFlow && isFlowIndicator c then finish
            else
              readPlainFrom inFlow indent fuel (c :: (gap.folded.reverse ++ text)) {} cur.skip

/-- Read a plain scalar at the cursor. -/
def readPlain (inFlow : Bool) (indent : Nat) (cur : Cursor) :
    Option (List Char × Bool × Cursor) :=
  readPlainFrom inFlow indent (2 * cur.rest.length + 2) [] {} cur

/-! ## Section 3: Quoted scalars -/

/-- The character that a one-letter escape stands for. -/
def simpleEscape? : Char → Option Char
  | '0' => some '\x00'
  | 'a' => some '\x07'
  | 'b' => some '\x08'
  | 't' => some '\t'
  | '\t' => some '\t'
  | 'n' => some '\n'
  | 'v' => some '\x0b'
  | 'f' => some '\x0c'
  | 'r' => some '\r'
  | 'e' => some '\x1b'
  | ' ' => some ' '
  | '"' => some '"'
  | '/' => some '/'
  | '\\' => some '\\'
  | 'N' => some (Char.ofNat 0x85)
  | '_' => some (Char.ofNat 0xA0)
  | 'L' => some (Char.ofNat 0x2028)
  | 'P' => some (Char.ofNat 0x2029)
  | _ => none

/-- How many hexadecimal digits an escape takes. -/
def escapeDigits? : Char → Option Nat
  | 'x' => some 2
  | 'u' => some 4
  | 'U' => some 8
  | _ => none

/-- The character of an escape after its backslash, and how much text it takes. -/
def readEscape : List Char → Option (Char × Nat)
  | [] => none
  | c :: rest =>
      match simpleEscape? c with
      | some d => some (d, 1)
      | none => do
          let count ← escapeDigits? c
          let code ← Decimal.hexNumber? count rest
          if (0xD800 ≤ code ∧ code ≤ 0xDFFF) ∨ code > 0x10FFFF then none
          else some (Char.ofNat code, count + 1)

/-- Read a quoted scalar after its opening quote.

`gap` is the white space met since the last character; an escaped line break leaves a gap that is
broken but holds no break. -/
def readQuotedFrom (single : Bool) :
    Nat → List Char → Gap → Cursor → Option (List Char × Cursor)
  | 0, _, _, _ => none
  | fuel + 1, text, gap, cur =>
      match cur.rest with
      | [] => none
      | c :: rest =>
          if isBlank c || isBreak c then
            match Gap.read none cur.rest.length gap cur with
            | none => none
            | some (gap, cur) =>
                if cur.documentMark then none
                else readQuotedFrom single fuel (gap.folded.reverse ++ text) {} cur
          else
            let text := gap.folded.reverse ++ text
            if single then
              if c = '\'' then
                if rest.head? = some '\'' then
                  readQuotedFrom single fuel ('\'' :: text) {} (cur.skipMany 2)
                else some (text.reverse, cur.skip)
              else readQuotedFrom single fuel (c :: text) {} cur.skip
            else if c = '"' then some (text.reverse, cur.skip)
            else if c = '\\' then
              if cur.breakAt 1 then
                let next := cur.skip.skipLine
                if next.documentMark then none
                else readQuotedFrom single fuel text { broken := true } next
              else
                match readEscape rest with
                | none => none
                | some (d, count) =>
                    readQuotedFrom single fuel (d :: text) {} (cur.skipMany (count + 1))
            else readQuotedFrom single fuel (c :: text) {} cur.skip

/-- Read a quoted scalar at its opening quote. -/
def readQuoted (single : Bool) (cur : Cursor) : Option (List Char × Cursor) :=
  readQuotedFrom single (2 * cur.rest.length + 2) [] {} cur.skip

/-! ## Section 4: Block scalars -/

/-- What happens to the line breaks at the end of a block scalar. -/
inductive Chomping where
  | strip | clip | keep
deriving DecidableEq

/-- Read the empty lines before the next content line.

`indent` is the indentation of the content, zero while it is unknown; the result tells the greatest
column that was reached. -/
def readBlockBreaks (indent : Nat) :
    Nat → Nat → List Char → Cursor → Option (Nat × List Char × Cursor)
  | 0, deepest, breaks, cur => some (deepest, breaks, cur)
  | fuel + 1, deepest, breaks, cur =>
      let room := if indent = 0 then cur.rest.length else indent - cur.column
      let spaces := ((cur.rest.take room).takeWhile (· = ' ')).length
      let cur := cur.skipMany spaces
      let deepest := max deepest cur.column
      if (indent = 0 || cur.column < indent) && cur.sees '\t' then none
      else if cur.breakAt 0 then
        readBlockBreaks indent fuel deepest (breaks ++ cur.breakText) cur.skipLine
      else some (deepest, breaks, cur)

/-- Read the content lines of a block scalar.

`lineBreak` is the break that ended the last line and `breaks` those of the empty lines since. -/
def readBlockLines (literal : Bool) (indent : Nat) :
    Nat → List Char → Bool → List Char → List Char → Cursor →
      Option (List Char × List Char × List Char × Cursor)
  | 0, text, _, lineBreak, breaks, cur => some (text, lineBreak, breaks, cur)
  | fuel + 1, text, leadingBlank, lineBreak, breaks, cur =>
      if cur.column = indent && !cur.rest.isEmpty then
        let blank := cur.blankAt 0
        let folds := !literal && lineBreak.head? = some '\n' && !leadingBlank && !blank
        let joint := if folds then (if breaks.isEmpty then [' '] else []) else lineBreak
        let (line, cur) := cur.takeWhile (!isBreak ·)
        let text := line.reverse ++ (breaks.reverse ++ (joint.reverse ++ text))
        match readBlockBreaks indent (cur.rest.length + 1) 0 [] cur.skipLine with
        | none => none
        | some (_, breaks, next) =>
            readBlockLines literal indent fuel text blank cur.breakText breaks next
      else some (text, lineBreak, breaks, cur)

/-- The chomping and indentation indicators after the opening mark, in either order. -/
def readBlockHeader (cur : Cursor) : Option (Chomping × Option Nat × Cursor) :=
  let chomping? (cur : Cursor) : Option Chomping :=
    if cur.sees '+' then some .keep else if cur.sees '-' then some .strip else none
  let digit? (cur : Cursor) : Option Nat :=
    cur.rest.head?.bind fun c => if c.isDigit then some (c.toNat - '0'.toNat) else none
  match chomping? cur with
  | some chomping =>
      match digit? cur.skip with
      | some 0 => none
      | some n => some (chomping, some n, cur.skip.skip)
      | none => some (chomping, none, cur.skip)
  | none =>
      match digit? cur with
      | some 0 => none
      | some n =>
          match chomping? cur.skip with
          | some chomping => some (chomping, some n, cur.skip.skip)
          | none => some (.clip, some n, cur.skip)
      | none => some (.clip, none, cur)

/-- Move over blanks and a comment to the end of the line, which must come then. -/
def skipLineRest (cur : Cursor) : Option Cursor :=
  let cur := cur.skipWhile isBlank
  let cur := if cur.sees '#' then cur.skipWhile (!isBreak ·) else cur
  if cur.lineEndAt 0 then some (if cur.breakAt 0 then cur.skipLine else cur) else none

/-- Read a block scalar at its opening mark; `parent` is the indentation around it. -/
def readBlock (literal : Bool) (parent : Int) (cur : Cursor) : Option (List Char × Cursor) := do
  let (chomping, increment, cur) ← readBlockHeader cur.skip
  let cur ← skipLineRest cur
  let fuel := cur.rest.length + 2
  let given : Nat := match increment with
    | some n => if parent ≥ 0 then parent.toNat + n else n
    | none => 0
  let (deepest, breaks, cur) ← readBlockBreaks given fuel 0 [] cur
  let indent := if given = 0 then max (max deepest (parent + 1).toNat) 1 else given
  let (text, lineBreak, breaks, cur) ← readBlockLines literal indent fuel [] false [] breaks cur
  let text := text.reverse
  return (match chomping with
    | .strip => text
    | .clip => text ++ lineBreak
    | .keep => text ++ lineBreak ++ breaks, cur)

/-! ## Section 5: Anchors, tags and directives -/

/-- Read the name of an anchor or alias after its mark. -/
def readAnchorName (cur : Cursor) : Option (String × Cursor) :=
  let (name, cur) := cur.takeWhile isWordChar
  let ends := cur.wordEndAt 0 || "?:,]\x7d%@\x60".toList.any cur.sees
  if name.isEmpty || !ends then none else some (String.ofList name, cur)

/-- The characters of a tag besides letters, digits, dash and underscore. -/
def isTagPunctuation (c : Char) : Bool := ";/?:@&=+$.%!~*'()".toList.contains c

/-- How many bytes a UTF-8 sequence with this first byte has. -/
def sequenceLength? (byte : Nat) : Option Nat :=
  if byte < 0x80 then some 1
  else if 0xC0 ≤ byte ∧ byte < 0xE0 then some 2
  else if 0xE0 ≤ byte ∧ byte < 0xF0 then some 3
  else if 0xF0 ≤ byte ∧ byte < 0xF8 then some 4
  else none

/-- Read percent escapes, which write the bytes of one character in UTF-8. -/
def readPercentBytes : Nat → List Char → Option (List UInt8 × Nat)
  | 0, _ => some ([], 0)
  | count + 1, '%' :: rest => do
      let byte ← Decimal.hexNumber? 2 rest
      let (bytes, length) ← readPercentBytes count (rest.drop 2)
      return (byte.toUInt8 :: bytes, length + 3)
  | _, _ => none

/-- The character that percent escapes write, and the length of their text. -/
def readPercentChar (cs : List Char) : Option (Char × Nat) := do
  let first ← Decimal.hexNumber? 2 (cs.drop 1)
  let (bytes, length) ← readPercentBytes (← sequenceLength? first) cs
  let text ← String.fromUTF8? ⟨bytes.toArray⟩
  return (← text.toList.head?, length)

/-- Read the characters of a tag's address. Inside `<…>` commas and brackets belong to it. -/
def readTagText (verbatim : Bool) : Nat → List Char → Cursor → Option (List Char × Cursor)
  | 0, text, cur => some (text.reverse, cur)
  | fuel + 1, text, cur =>
      match cur.rest with
      | c :: _ =>
          if c = '%' then
            match readPercentChar cur.rest with
            | none => none
            | some (d, length) => readTagText verbatim fuel (d :: text) (cur.skipMany length)
          else if isWordChar c || isTagPunctuation c
              || (verbatim && (c = ',' || c = '[' || c = ']')) then
            readTagText verbatim fuel (c :: text) cur.skip
          else some (text.reverse, cur)
      | [] => some (text.reverse, cur)

/-- Read a tag's handle: `!`, or a word between two of them, or `!` with a word after it. -/
def readTagHandle (cur : Cursor) : Option (List Char × Cursor) :=
  if cur.sees '!' then
    let (name, after) := cur.skip.takeWhile isWordChar
    if after.sees '!' then some ('!' :: name ++ ['!'], after.skip) else some ('!' :: name, after)
  else none

/-- Read a tag: verbatim, by a handle, or local. -/
def readTag (inFlow : Bool) (cur : Cursor) : Option (Token × Cursor) := do
  let fuel := cur.rest.length
  let (handle, suffix, cur) ←
    if cur.peek? 1 = some '<' then do
      let (suffix, cur) ← readTagText true fuel [] (cur.skipMany 2)
      if suffix.isEmpty || !cur.sees '>' then none
      else some ([], suffix, cur.skip)
    else do
      let (handle, cur) ← readTagHandle cur
      if handle.length > 1 && handle.getLast? = some '!' then
        let (suffix, cur) ← readTagText false fuel [] cur
        if suffix.isEmpty then none else some (handle, suffix, cur)
      else
        let (more, cur) ← readTagText false fuel [] cur
        let suffix := handle.drop 1 ++ more
        some (if suffix.isEmpty then ([], ['!'], cur) else (['!'], suffix, cur))
  if (inFlow && cur.sees ',') || cur.wordEndAt 0 then
    some (.tag (String.ofList handle) (String.ofList suffix), cur)
  else none

/-- Read one number of a version: one to nine digits. -/
def readVersionNumber (cur : Cursor) : Option (Nat × Cursor) :=
  let (digits, cur) := cur.takeWhile Char.isDigit
  if digits.isEmpty || digits.length > 9 then none
  else some (digits.foldl (fun n c => n * 10 + (c.toNat - '0'.toNat)) 0, cur)

/-- Read a directive, its line included. -/
def readDirective (cur : Cursor) : Option (Token × Cursor) := do
  let (name, cur) := cur.skip.takeWhile isWordChar
  if name.isEmpty || !cur.wordEndAt 0 then none
  else
    let cur := cur.skipWhile isBlank
    let (token, cur) ←
      if name = "YAML".toList then do
        let (major, cur) ← readVersionNumber cur
        if !cur.sees '.' then none
        else
          let (minor, cur) ← readVersionNumber cur.skip
          some (Token.version major minor, cur)
      else if name = "TAG".toList then do
        let (handle, cur) ← readTagHandle cur
        if handle.getLast? ≠ some '!' || !cur.blankAt 0 then none
        else
          let (expansion, cur) ← readTagText true cur.rest.length [] (cur.skipWhile isBlank)
          if expansion.isEmpty || !cur.wordEndAt 0 then none
          else some (Token.tagAbbreviation (String.ofList handle) (String.ofList expansion), cur)
      else none
    return (token, ← skipLineRest cur)

end Folio.Yaml
