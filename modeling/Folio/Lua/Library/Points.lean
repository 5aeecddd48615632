import Folio.Lua.Library.Strings
import Folio.Lua.Token

/-!
# The library of code points

Strings as sequences of code points in UTF-8. Places are counted in bytes.

Main definitions:
- `Lua.pointAt?`: the code point at a place
- `Lua.pointFunctions`: the functions
- `Lua.pointsStep`: the function that goes through the code points of a string
-/

namespace Folio.Lua

open Effect

/-! ## Section 1: Decoding -/

/-- Whether a byte continues a code point. -/
def isContinuation (b : UInt8) : Bool := b.toNat / 64 = 2

/-- How many bytes follow the first one of a code point, and the bits in that one. -/
def leadingByte? (n : Nat) : Option (Nat × Nat) :=
  if n < 0x80 then some (0, n)
  else if n < 0xC0 then none
  else if n < 0xE0 then some (1, n - 0xC0)
  else if n < 0xF0 then some (2, n - 0xE0)
  else if n < 0xF8 then some (3, n - 0xF0)
  else if n < 0xFC then some (4, n - 0xF8)
  else if n < 0xFE then some (5, n - 0xFC)
  else none

/-- The least code point that needs so many bytes after the first one. -/
def leastPoint (count : Nat) : Nat :=
  ([0, 0x80, 0x800, 0x10000, 0x200000, 0x4000000][count]?).getD 0

/-- The code point at a place and its length. Unless `lax`, it must be one that texts can have. -/
def pointAt? (s : Bytes) (lax : Bool) (place : Nat) : Option (Nat × Nat) := do
  let first ← s.at? place
  let (count, bits) ← leadingByte? first.toNat
  let tail := (s.slice (place + 1) (place + 1 + count)).toList
  if tail.length < count || !tail.all isContinuation then none
  else
    let n := tail.foldl (fun n b => n * 64 + b.toNat % 64) bits
    if n < leastPoint count || n ≥ Nat.pow 2 31 then none
    else if !lax && (n > 0x10FFFF || (0xD800 ≤ n && n ≤ 0xDFFF)) then none
    else some (n, count + 1)

/-- Code points from a place up to before another one. -/
def pointsBetween (s : Bytes) (lax : Bool) (stop : Nat) : Nat → Nat → Option (List Nat)
  | 0, _ => some []
  | fuel + 1, place =>
      if place ≥ stop then some []
      else do
        let (n, length) ← pointAt? s lax place
        return n :: (← pointsBetween s lax stop fuel (place + length))

/-- A place counted from one, or from the end if it is negative. -/
def placeOf (length : Nat) (i : Int) : Int :=
  if i ≥ 0 then i else if -i > length then 0 else length + i + 1

/-! ## Section 2: Functions -/

/-- The message when bytes are no code point. -/
def invalidCode : String := "invalid UTF-8 code"

/-- The string of some code points. -/
def pointsChar (c : Call) : Except CallFault (List Val) := do
  let points ← c.each 1 fun i v => do
    let n ← Call.intOf i v
    if n.toUInt64.toNat ≥ Nat.pow 2 31 then Call.bad i "value out of range"
    else return encodePoint n.toInt.toNat
  return [.str (Bytes.ofChars points.flatten)]

/-- The code points between two places. -/
def pointsCodepoint (c : Call) : Except CallFault (List Val) := do
  let s ← c.str 1
  let first := placeOf s.size (← c.optInt 2 1)
  let last := placeOf s.size (← c.optInt 3 first)
  if first < 1 then Call.bad 2 "out of bounds"
  else if last > s.size then Call.bad 3 "out of bounds"
  else if first > last then return []
  else
    match pointsBetween s (c.arg 4).isTrue last.toNat (s.size + 1) (first.toNat - 1) with
    | some points => return points.map Val.ofNat
    | none => Call.fail invalidCode

/-- Count code points up to a place; the place where there is none otherwise. -/
def countPoints (s : Bytes) (lax : Bool) (last : Int) : Nat → Nat → Nat → Nat × Option Nat
  | 0, _, count => (count, none)
  | fuel + 1, place, count =>
      if (place : Int) ≥ last then (count, none)
      else
        match pointAt? s lax place with
        | some (_, length) => countPoints s lax last fuel (place + length) (count + 1)
        | none => (count, some place)

/-- How many code points begin between two places. -/
def pointsLength (c : Call) : Except CallFault (List Val) := do
  let s ← c.str 1
  let first := placeOf s.size (← c.optInt 2 1)
  let last := placeOf s.size (← c.optInt 3 (-1))
  if !(1 ≤ first && first - 1 ≤ s.size) then Call.bad 2 "initial position out of bounds"
  else if last > s.size then Call.bad 3 "final position out of bounds"
  else
    match countPoints s (c.arg 4).isTrue last (s.size + 1) (first.toNat - 1) 0 with
    | (count, none) => return [.ofNat count]
    | (_, some place) => return [.nil, .ofNat (place + 1)]

/-- The place of the code point before a place. -/
def pointBefore (s : Bytes) : Nat → Option Nat
  | 0 => none
  | place + 1 => if isContinuation (s.byteAt place) then pointBefore s place else some place

/-- The place after the code point at a place. -/
def pointAfter (s : Bytes) : Nat → Nat → Nat
  | 0, place => place
  | fuel + 1, place =>
      if isContinuation (s.byteAt (place + 1)) then pointAfter s fuel (place + 1) else place + 1

/-- The place so many code points before a place. -/
def goBack (s : Bytes) : Nat → Nat → Option Nat
  | 0, place => some place
  | count + 1, place => (pointBefore s place).bind (goBack s count)

/-- The place so many code points after a place. -/
def goAhead (s : Bytes) : Nat → Nat → Option Nat
  | 0, place => some place
  | count + 1, place =>
      if place ≥ s.size then none else goAhead s count (pointAfter s s.size place)

/-- The place of a code point, counted from a place. -/
def pointsOffset (c : Call) : Except CallFault (List Val) := do
  let s ← c.str 1
  let n := (← c.int 2).toInt
  let start := placeOf s.size (← c.optInt 3 (if n > 0 then 1 else s.size + 1)) - 1
  if !(0 ≤ start && start ≤ s.size) then Call.bad 3 "position out of bounds"
  else
    let place := start.toNat
    let isInside := isContinuation (s.byteAt place)
    let answer (place : Option Nat) : List Val := [(place.map fun p => Val.ofNat (p + 1)).getD .nil]
    if n = 0 then
      return answer (if isInside then pointBefore s place else some place)
    else if isInside then Call.fail "initial position is a continuation byte"
    else if n < 0 then return answer (goBack s n.natAbs place)
    else return answer (goAhead s (n.toNat - 1) place)

/-! ## Section 3: Going through a string -/

/-- A function that goes through the code points of a string, with the string and its beginning. -/
def pointsCodes : String × Native :=
  native "codes" (fun c => do
    let s ← c.str 1
    if isContinuation (s.byteAt 0) then Call.bad 1 invalidCode
    else return (s, (c.arg 2).isTrue))
    fun (s, lax) => make (·.newFunction (.native pointsIndex [.bool lax])) fun f =>
      finish [f, .str s, .int 0]

/-- Go on through the code points of a string. -/
def pointsStep : Native := fun _ state args =>
  match args with
  | .str s :: .int i :: _ =>
      let lax := (firstOf state).isTrue
      let rec skip : Nat → Nat → Nat
        | 0, place => place
        | fuel + 1, place => if isContinuation (s.byteAt place) then skip fuel (place + 1) else place
      let place := if i.toInt ≤ 0 then 0 else skip s.size i.toInt.toNat
      if place ≥ s.size then finish []
      else
        match pointAt? s lax place with
        | some (n, length) =>
            if isContinuation (s.byteAt (place + length)) then raise (Bytes.ofText invalidCode)
            else finish [.ofNat (place + 1), .ofNat n]
        | none => raise (Bytes.ofText invalidCode)
  | _ => finish []

/-- The pattern of a code point. -/
def pointPattern : Bytes :=
  Bytes.ofChars (("[\x00-\x7F".toList ++ [Char.ofNat 0xC2, '-', Char.ofNat 0xFD, ']', '[',
    Char.ofNat 0x80, '-', Char.ofNat 0xBF, ']', '*']))

/-- The functions of code points. -/
def pointFunctions : List (String × Native) :=
  [pureNative "char" pointsChar,
    pureNative "codepoint" pointsCodepoint,
    pureNative "len" pointsLength,
    pureNative "offset" pointsOffset,
    pointsCodes]

end Folio.Lua
