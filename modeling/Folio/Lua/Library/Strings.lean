import Folio.Lua.Format
import Folio.Lua.Library.Programs
import Folio.Lua.Pattern

/-!
# The library of strings

Places in strings are counted from one; negative places count from the end.

Main definitions:
- `Lua.stringFunctions`: the functions
- `Lua.matchesStep`: the function that goes through the matches of a pattern
- `Lua.Replacing`: the replacement of matches
-/

namespace Folio.Lua

open Effect

/-! ## Section 1: Places -/

/-- The place where a part of a string begins. -/
def startPlace (length : Nat) (i : Int) : Nat :=
  if i > 0 then i.toNat else if i = 0 || i < -(length : Int) then 1 else (length + i + 1).toNat

/-- The place where a part of a string ends. -/
def endPlace (length : Nat) (i : Int) : Nat :=
  if i > length then length
  else if i ≥ 0 then i.toNat
  else if i < -(length : Int) then 0
  else (length + i + 1).toNat

/-! ## Section 2: Simple functions -/

/-- The part of a string between two places. -/
def stringSub (c : Call) : Except CallFault (List Val) := do
  let s ← c.str 1
  let start := startPlace s.size (← c.int 2).toInt
  let stop := endPlace s.size (← c.optInt 3 (-1))
  return [.str (if start > stop then ByteArray.empty else s.slice (start - 1) stop)]

/-- How many values a function can return. -/
def maxResults : Nat := 999990

/-- The bytes between two places. -/
def stringByte (c : Call) : Except CallFault (List Val) := do
  let s ← c.str 1
  let first ← c.optInt 2 1
  let start := startPlace s.size first
  let stop := endPlace s.size (← c.optInt 3 first)
  if start > stop then return []
  else if stop - start ≥ maxResults then Call.fail "stack overflow (string slice too long)"
  else return (s.slice (start - 1) stop).toList.map fun b => .ofNat b.toNat

/-- The string of some bytes. -/
def stringChar (c : Call) : Except CallFault (List Val) := do
  let bytes ← c.each 1 fun i v => do
    let n := (← Call.intOf i v).toInt
    if n < 0 || n > 255 then Call.bad i "value out of range" else return n.toNat.toUInt8
  return [.str ⟨bytes.toArray⟩]

/-- The greatest length of a string. -/
def maxLength : Nat := Nat.pow 2 31

/-- A string a number of times, with another one between. -/
def stringRep (c : Call) : Except CallFault (List Val) := do
  let s ← c.str 1
  let count := (← c.int 2).toInt.toNat
  let separator ← c.optional 3 ByteArray.empty c.str
  if (s.size + separator.size) * count ≥ maxLength then Call.fail "resulting string too large"
  else if s.size + separator.size = 0 then return [.str s]
  else return [.str (Bytes.join separator (List.replicate count s))]

/-- A string with every byte changed. -/
def mapBytes (f : Char → Char) (s : Bytes) : Bytes := Bytes.ofChars (s.chars.map f)

/-- A string as a value of one argument. -/
def stringOf (f : Bytes → Bytes) (c : Call) : Except CallFault (List Val) := do
  return [.str (f (← c.str 1))]

/-- A function of a program as a text, from which it can be made again. -/
def stringDump : String × Native :=
  memoryNative "dump" (fun c m => do
    match ← c.function 1 with
    | .function id =>
        match m.functions[id]? with
        | some (.closure p _) => return p
        | _ => Call.fail "unable to dump given function"
    | _ => Call.fail "unable to dump given function")
    fun p => fun m =>
      let place := m.dumped.size
      finish [.str (binaryText place)] { m with dumped := m.dumped.push p }

/-! ## Section 3: Finding -/

/-- A fault of a pattern as that of a call. -/
def patternResult {α : Type} (result : Except Pattern.Fault α) : Except CallFault α :=
  match result with
  | .ok a => .ok a
  | .error fault => Call.fail fault.message

/-- Something captured as a value. -/
def capturedValue : Pattern.Captured → Val
  | .text s => .str s
  | .position n => .ofNat n

/-- The first place from `place` on where a string holds another one. -/
def findPlain (s part : Bytes) : Nat → Nat → Option Nat
  | 0, _ => none
  | fuel + 1, place =>
      if place + part.size > s.size then none
      else if s.slice place (place + part.size) == part then some place
      else findPlain s part fuel (place + 1)

/-- The first match from `place` on: where it begins and ends, and its captures. With an anchor, only
one that begins there. -/
def findMatch (s : Bytes) (pattern : List Char) (anchored : Bool) :
    Nat → Nat → Except Pattern.Fault (Option (Nat × Nat × Pattern.Captures))
  | 0, _ => .ok none
  | fuel + 1, place =>
      match Pattern.matchAt s pattern place with
      | .error fault => .error fault
      | .ok (some (stop, captures)) => .ok (some (place, stop, captures))
      | .ok none =>
          if anchored || place ≥ s.size then .ok none
          else findMatch s pattern anchored fuel (place + 1)

/-- A pattern without its anchor, and whether it had one. -/
def unanchored (pattern : List Char) : List Char × Bool :=
  match pattern with
  | '^' :: rest => (rest, true)
  | _ => (pattern, false)

/-- Find a pattern or a plain text: for its places, or only for what it captures. -/
def stringFind (withPlaces : Bool) (c : Call) : Except CallFault (List Val) := do
  let s ← c.str 1
  let part ← c.str 2
  let start := startPlace s.size (← c.optInt 3 1) - 1
  if start > s.size then return [.nil]
  else if withPlaces && ((c.arg 4).isTrue || !Pattern.hasSpecials part.chars) then
    match findPlain s part (s.size + 1) start with
    | some place => return [.ofNat (place + 1), .ofNat (place + part.size)]
    | none => return [.nil]
  else
    let (pattern, anchored) := unanchored part.chars
    match ← patternResult (findMatch s pattern anchored (s.size + 1) start) with
    | none => return [.nil]
    | some (place, stop, captures) =>
        if withPlaces then
          let values ← if captures.isEmpty then pure []
            else patternResult (Pattern.captured s place stop captures)
          return .ofNat (place + 1) :: .ofNat stop :: values.map capturedValue
        else return (← patternResult (Pattern.captured s place stop captures)).map capturedValue

/-- Set the values of a function of the library. -/
def setState (self : Nat) (index : Nat) (state : List Val) (m : Memory) : Memory :=
  { m with functions := m.functions.setIfInBounds self (.native index state) }

/-- A function that goes through the matches of a pattern. Its values are the string, the pattern, the
place to go on from, and where the last match ended. -/
def stringMatches : String × Native :=
  native "gmatch" (fun c => do
    let s ← c.str 1
    let pattern ← c.str 2
    let start := startPlace s.size (← c.optInt 3 1) - 1
    return [.str s, .str pattern, .ofNat (min start (s.size + 1)), .nil])
    fun state => make (·.newFunction (.native matchesIndex state)) fun f => finish [f]

/-- The first match that does not end where the last one ended. -/
def nextMatch (s : Bytes) (pattern : List Char) (last : Option Nat) :
    Nat → Nat → Except Pattern.Fault (Option (Nat × Nat × Pattern.Captures))
  | 0, _ => .ok none
  | fuel + 1, place =>
      if place > s.size then .ok none
      else
        match Pattern.matchAt s pattern place with
        | .error fault => .error fault
        | .ok (some (stop, captures)) =>
            if some stop = last then nextMatch s pattern last fuel (place + 1)
            else .ok (some (place, stop, captures))
        | .ok none => nextMatch s pattern last fuel (place + 1)

/-- Fail because of a pattern. -/
def raisePattern (fault : Pattern.Fault) : Effect := raise (Bytes.ofText fault.message)

/-- Go on through the matches of a pattern. -/
def matchesStep : Native := fun self state _ =>
  match state with
  | [.str s, .str pattern, .int place, last] =>
      let last := match last with
        | .int n => some n.toInt.toNat
        | _ => none
      match nextMatch s pattern.chars last (s.size + 2) place.toInt.toNat with
      | .error fault => raisePattern fault
      | .ok none => finish []
      | .ok (some (start, stop, captures)) =>
          let state := [.str s, .str pattern, .ofNat stop, .ofNat stop]
          change (setState self matchesIndex state) <|
            match Pattern.captured s start stop captures with
            | .error fault => raisePattern fault
            | .ok values => finish (values.map capturedValue)
  | _ => finish []

/-! ## Section 4: Replacing -/

/-- A replacement of matches. -/
structure Replacing where
  s : Bytes
  pattern : List Char
  anchored : Bool
  /-- How many matches are replaced at most. -/
  limit : Int
  /-- A text, a table or a function. -/
  value : Val

/-- The text for a match, given a value that a table or a function has for it. -/
def replacementText (whole : Bytes) (v : Val) (next : List Char → Effect) : Effect :=
  match v with
  | .nil | .bool false => next whole.chars
  | v =>
      match v.toStr? with
      | some s => next s.chars
      | none => raise (Bytes.ofText ("invalid replacement value (a " ++ v.typeName ++ ")"))

/-- The text for a match. -/
def Replacing.replace (r : Replacing) (start stop : Nat) (captures : Pattern.Captures)
    (next : List Char → Effect) : Effect :=
  let whole := r.s.slice start stop
  match r.value with
  | .table id =>
      match Pattern.firstCaptured r.s start stop captures with
      | .error fault => raisePattern fault
      | .ok v => index (.table id) (capturedValue v) (replacementText whole · next)
  | .function id =>
      match Pattern.captured r.s start stop captures with
      | .error fault => raisePattern fault
      | .ok values =>
          callValue (.function id) (values.map capturedValue) fun vs =>
            replacementText whole (firstOf vs) next
  | v =>
      match Pattern.replacement r.s start stop captures ((v.toStr?.getD ByteArray.empty).chars) with
      | .ok cs => next cs
      | .error fault => raisePattern fault

/-- Replace matches from a place on. The text so far is in reverse; `count` matches were replaced. -/
def Replacing.run (r : Replacing) : Nat → Nat → Option Nat → Nat → List Char → Effect
  | 0, _, _, _, _ => finish []
  | fuel + 1, place, last, count, acc =>
      let stopAt (place count : Nat) (acc : List Char) : Effect :=
        let rest := (r.s.slice place r.s.size).chars
        finish [.str (Bytes.ofChars (acc.reverse ++ rest)), .ofNat count]
      if count ≥ r.limit then stopAt place count acc
      else
        let skip (_ : Unit) : Effect :=
          match Pattern.charAt? r.s place with
          | some c =>
              if r.anchored then stopAt place count acc
              else r.run fuel (place + 1) last count (c :: acc)
          | none => stopAt place count acc
        match Pattern.matchAt r.s r.pattern place with
        | .error fault => raisePattern fault
        | .ok none => skip ()
        | .ok (some (stop, captures)) =>
            if some stop = last then skip ()
            else
              r.replace place stop captures fun cs =>
                let acc := cs.reverse ++ acc
                if r.anchored then stopAt stop (count + 1) acc
                else r.run fuel stop (some stop) (count + 1) acc

/-- Replace the matches of a pattern. -/
def stringReplace : String × Native :=
  native "gsub" (fun c => do
    let s ← c.str 1
    let (pattern, anchored) := unanchored (← c.str 2).chars
    let limit ← c.optInt 4 (s.size + 1)
    match c.arg 3 with
    | .table _ | .function _ | .str _ | .int _ | .float _ =>
        return (⟨s, pattern, anchored, limit, c.arg 3⟩ : Replacing)
    | _ => Call.expected 3 "string/function/table")
    fun r => r.run (2 * r.s.size + 4) 0 none 0 []

/-! ## Section 5: Formatting -/

/-- Format from an argument on. The text so far is in reverse. -/
def formatFrom (c : Call) : Nat → Nat → List Char → List Char → Effect
  | 0, _, _, _ => finish []
  | _ + 1, _, acc, [] => finish [.str (Bytes.ofChars acc.reverse)]
  | fuel + 1, i, acc, '%' :: rest =>
      match rest with
      | '%' :: rest => formatFrom c fuel i ('%' :: acc) rest
      | _ =>
          let (item, rest) := FormatItem.read rest
          let go (result : Except CallFault (List Char)) : Effect :=
            match result with
            | .ok cs => formatFrom c fuel (i + 1) (cs.reverse ++ acc) rest
            | .error fault => c.raise fault
          match c.arg? i with
          | none => c.raiseArgument i (Bytes.ofText "no value")
          | some v =>
              if item.modifiers.length > FormatItem.maxModifiers then
                raise (Bytes.ofText "invalid format string to 'format'")
              else if item.letter = some 's' then textOf v fun s => go (convertText i item s)
              else go (convertArgument c i item)
  | fuel + 1, i, acc, ch :: rest => formatFrom c fuel i (ch :: acc) rest

/-- Format arguments. -/
def stringFormat : String × Native :=
  native "format" (fun c => do return ((← c.str 1), c))
    fun (s, c) => formatFrom c (s.size + 1) 2 [] s.chars

/-! ## Section 6: The library -/

/-- The functions of strings. -/
def stringFunctions : List (String × Native) :=
  [pureNative "sub" stringSub,
    pureNative "byte" stringByte,
    pureNative "char" stringChar,
    pureNative "rep" stringRep,
    pureNative "len" fun c => do return [.ofNat (← c.str 1).size],
    pureNative "lower" (stringOf (mapBytes Char.toLower)),
    pureNative "upper" (stringOf (mapBytes Char.toUpper)),
    pureNative "reverse" (stringOf fun s => ⟨s.data.reverse⟩),
    pureNative "find" (stringFind true),
    pureNative "match" (stringFind false),
    stringDump,
    stringMatches,
    stringReplace,
    stringFormat]

end Folio.Lua
