import Folio.Yaml.Token

/-!
# The tokens of a YAML stream

Cuts a text into tokens. Indentation opens and closes blocks, and a key is recognised only when its
colon is met: until then its place is remembered, and the tokens that begin it are put in there.

Main definitions:
- `Yaml.Stream`: the cursor with the open blocks, brackets and possible keys
- `Yaml.tokens?`: all tokens of a text
-/

namespace Folio.Yaml

/-- A place where a key may have begun. -/
structure KeyPlace where
  /-- Whether only a key can stand there. -/
  required : Bool
  /-- The number of tokens before it. -/
  token : Nat
  cursor : Cursor
deriving Inhabited

/-- The state of cutting a text into tokens. -/
structure Stream where
  cursor : Cursor
  /-- The column of the innermost block, less than zero outside of all. -/
  indent : Int := -1
  outer : List Int := []
  /-- Whether a key may begin here. -/
  keyAllowed : Bool := true
  /-- The possible key of each bracket that is open, innermost first, and of the block around. -/
  keys : List (Option KeyPlace) := [none]
  tokens : Array Token := #[]
deriving Inhabited

namespace Stream

/-- Whether brackets are open. -/
def inFlow (s : Stream) : Bool :=
  match s.keys with
  | _ :: _ :: _ => true
  | _ => false

/-- Add a token at the end. -/
def push (s : Stream) (t : Token) : Stream := { s with tokens := s.tokens.push t }

/-- Add a token at the end and move over the `k` characters that write it. -/
def emit (s : Stream) (t : Token) (k : Nat) : Stream :=
  { s with tokens := s.tokens.push t, cursor := s.cursor.skipMany k }

/-- Put a token before the one with number `place`. -/
def insertAt (s : Stream) (place : Nat) (t : Token) : Stream :=
  { s with tokens := s.tokens.insertIdx! place t }

/-! ## Section 1: Blocks -/

/-- Close the blocks that lie deeper than `column`. -/
def closeBlocks (column : Int) : Nat → Stream → Stream
  | 0, s => s
  | fuel + 1, s =>
      if !s.inFlow && s.indent > column then
        closeBlocks column fuel
          { s with indent := s.outer.headD (-1), outer := s.outer.tail
                   tokens := s.tokens.push .blockEnd }
      else s

/-- Close the blocks that lie deeper than `column`. -/
def unindent (s : Stream) (column : Int) : Stream := s.closeBlocks column (s.outer.length + 1)

/-- Open a block at `column`, unless one is open there, with its token at `place`. -/
def openBlock (s : Stream) (column place : Nat) (t : Token) : Stream :=
  if !s.inFlow && s.indent < column then
    { s with indent := column, outer := s.indent :: s.outer }.insertAt place t
  else s

/-! ## Section 2: Possible keys -/

/-- Forget the innermost possible key; nothing if it was required. -/
def dropKey (s : Stream) : Option Stream :=
  match s.keys with
  | some place :: rest => if place.required then none else some { s with keys := none :: rest }
  | _ => some s

/-- Remember that a key may begin here. -/
def saveKey (s : Stream) : Option Stream :=
  if s.keyAllowed then do
    let s ← s.dropKey
    let required := !s.inFlow && s.indent = s.cursor.column
    return { s with keys := some ⟨required, s.tokens.size, s.cursor⟩ :: s.keys.tail }
  else some s

/-- Forget the possible keys that are too far back: on an earlier line, or over 1024 characters
before. Nothing if one of them was required. -/
def dropStaleKeys (s : Stream) : Option Stream := do
  let stale (place : KeyPlace) : Bool :=
    place.cursor.line < s.cursor.line || place.cursor.index + 1024 < s.cursor.index
  if s.keys.any fun key => key.any fun place => stale place && place.required then none
  else some { s with keys := s.keys.map fun key => key.filter (!stale ·) }

/-! ## Section 3: Between tokens -/

/-- Move over blanks, comments and line breaks. -/
def skipSpace : Nat → Stream → Stream
  | 0, s => s
  | fuel + 1, s =>
      let cur := s.cursor
      let cur := if cur.index = 0 && cur.sees '\uFEFF' then cur.skip else cur
      let tabs := s.inFlow || !s.keyAllowed
      let cur := cur.skipWhile fun c => c = ' ' || (tabs && c = '\t')
      let cur := if cur.sees '#' then cur.skipWhile (!isBreak ·) else cur
      if cur.breakAt 0 then
        skipSpace fuel { s with cursor := cur.skipLine, keyAllowed := !s.inFlow || s.keyAllowed }
      else { s with cursor := cur }

/-! ## Section 4: One token -/

/-- A bracket opens. -/
def openBracket (s : Stream) (t : Token) : Option Stream := do
  let s ← s.saveKey
  return { s with keys := none :: s.keys, keyAllowed := true }.emit t 1

/-- A bracket closes. -/
def closeBracket (s : Stream) (t : Token) : Option Stream := do
  let s ← s.dropKey
  let keys := match s.keys with
    | _ :: outer :: rest => outer :: rest
    | keys => keys
  return { s with keys, keyAllowed := false }.emit t 1

/-- A dash opens an entry of a block sequence. -/
def blockEntry (s : Stream) : Option Stream := do
  if !s.inFlow && !s.keyAllowed then none
  else
    let s := s.openBlock s.cursor.column s.tokens.size .blockSequenceStart
    let s ← s.dropKey
    return { s with keyAllowed := true }.emit .blockEntry 1

/-- A question mark announces a key. -/
def explicitKey (s : Stream) : Option Stream := do
  if !s.inFlow && !s.keyAllowed then none
  else
    let s := s.openBlock s.cursor.column s.tokens.size .blockMappingStart
    let s ← s.dropKey
    return { s with keyAllowed := !s.inFlow }.emit .key 1

/-- A colon ends a key, remembered or announced. -/
def mappingValue (s : Stream) : Option Stream := do
  match s.keys with
  | some place :: rest =>
      let s := { s with keys := none :: rest, keyAllowed := false }
      let s := s.insertAt place.token .key
      let s := s.openBlock place.cursor.column place.token .blockMappingStart
      return s.emit .value 1
  | _ =>
      if !s.inFlow && !s.keyAllowed then none
      else
        let s := s.openBlock s.cursor.column s.tokens.size .blockMappingStart
        return { s with keyAllowed := !s.inFlow }.emit .value 1

/-- A token that may begin a key, with what its reader returned. -/
def keyStart (s : Stream) (read : Option (Token × Cursor)) : Option Stream := do
  let s ← s.saveKey
  let (t, cursor) ← read
  return { s with cursor, keyAllowed := false }.push t

/-- A plain scalar. A line break after it makes room for a key. -/
def plainScalar (s : Stream) : Option Stream := do
  let s ← s.saveKey
  let (text, broken, cursor) ← readPlain s.inFlow (s.indent + 1).toNat s.cursor
  return { s with cursor, keyAllowed := broken }.push (.scalar true (String.ofList text))

/-- Whether a plain scalar can begin here. -/
def plainStarts (s : Stream) (c : Char) : Bool :=
  (!isBlank c && !"-?:,[]\x7b\x7d#&*!|>'\"%@\x60".toList.contains c)
    || (c = '-' && !s.cursor.blankAt 1)
    || (!s.inFlow && (c = '?' || c = ':') && !s.cursor.wordEndAt 1)

/-- Read the token at the cursor, which stands on the character `c`. -/
def token (s : Stream) (c : Char) : Option Stream :=
  let cur := s.cursor
  let outOfBlocks : Option Stream := do
    let s ← (s.unindent (-1)).dropKey
    return { s with keyAllowed := false }
  if cur.column = 0 && c = '%' then do
    let s ← outOfBlocks
    let (t, cursor) ← readDirective s.cursor
    return { s with cursor }.push t
  else if cur.documentMarkAt '-' then outOfBlocks.map (·.emit .documentStart 3)
  else if cur.documentMarkAt '.' then outOfBlocks.map (·.emit .documentEnd 3)
  else if c = '[' then s.openBracket .flowSequenceStart
  else if c = '{' then s.openBracket .flowMappingStart
  else if c = ']' then s.closeBracket .flowSequenceEnd
  else if c = '}' then s.closeBracket .flowMappingEnd
  else if c = ',' then s.dropKey.map fun s => { s with keyAllowed := true }.emit .flowEntry 1
  else if c = '-' && cur.wordEndAt 1 then s.blockEntry
  else if c = '?' && (s.inFlow || cur.wordEndAt 1) then s.explicitKey
  else if c = ':' && (s.inFlow || cur.wordEndAt 1) then s.mappingValue
  else if c = '*' then
    s.keyStart ((readAnchorName cur.skip).map fun (name, cur) => (.reference name, cur))
  else if c = '&' then
    s.keyStart ((readAnchorName cur.skip).map fun (name, cur) => (.anchor name, cur))
  else if c = '!' then s.keyStart (readTag s.inFlow cur)
  else if (c = '|' || c = '>') && !s.inFlow then do
    let s ← s.dropKey
    let (text, cursor) ← readBlock (c = '|') s.indent cur
    return { s with cursor, keyAllowed := true }.push (.scalar false (String.ofList text))
  else if c = '\'' || c = '"' then
    s.keyStart ((readQuoted (c = '\'') cur).map fun (text, cur) =>
      (.scalar false (String.ofList text), cur))
  else if s.plainStarts c then s.plainScalar
  else none

/-- Read all tokens from the cursor on. -/
def run : Nat → Stream → Option (Array Token)
  | 0, _ => none
  | fuel + 1, s =>
      match (s.skipSpace (s.cursor.rest.length + 1)).dropStaleKeys with
      | none => none
      | some s =>
          let s := s.unindent s.cursor.column
          match s.cursor.rest with
          | [] => ((s.unindent (-1)).dropKey).map fun s => s.tokens.push .streamEnd
          | c :: _ => (s.token c).bind (run fuel)

end Stream

/-- The tokens of a text; nothing if it is malformed or holds a character no stream may hold. -/
def tokens? (text : String) : Option (List Token) :=
  let cs := text.toList
  if cs.all isStreamChar then
    (Stream.run (2 * cs.length + 2) { cursor := { rest := cs } }).map Array.toList
  else none

end Folio.Yaml
