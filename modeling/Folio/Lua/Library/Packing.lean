import Folio.Lua.Library.Strings

/-!
# Values in bytes

Numbers and strings as bytes by a format. A letter of the format stands for a value, for padding or for
a setting: which end of a number comes first, and how values are aligned.

Main definitions:
- `Lua.PackOption`: what a letter of a format stands for
- `Lua.PackLayout.read`: the next option of a format, and the padding before it
- `Lua.packFunctions`: the functions
-/

namespace Folio.Lua

open Effect

/-! ## Section 1: Formats -/

/-- What a letter of a format stands for. -/
inductive PackOption where
  /-- An integer, with a sign or without. -/
  | int (signed : Bool)
  /-- A double, or one of half its size. -/
  | float (single : Bool)
  /-- A string of a given length. -/
  | chars
  /-- A string with its length before it. -/
  | counted
  /-- A string with a zero after it. -/
  | ended
  | padding
  /-- Padding up to where another option would stand. -/
  | align
  /-- A setting. -/
  | setting
deriving DecidableEq, Inhabited

/-- Whether an option stands for a value. -/
def PackOption.isValue : PackOption → Bool
  | .padding | .align | .setting => false
  | _ => true

/-- The settings of a format, and the rest of it. -/
structure PackLayout where
  rest : List Char
  isLittle : Bool := true
  maxAlign : Nat := 1

/-- An option with its size and the padding before it. -/
structure PackItem where
  kind : PackOption
  size : Nat
  padding : Nat := 0

namespace PackLayout

/-- The greatest size of an integer. -/
def maxIntSize : Nat := 16

/-- The greatest size of a value. -/
def maxSize : Nat := Nat.pow 2 31 - 1

/-- A number in a format. A number that is too large ends early. -/
def readNumber : Nat → Option Nat → List Char → Option Nat × List Char
  | 0, n, cs => (n, cs)
  | fuel + 1, n, c :: rest =>
      if c.isDigit && n.getD 0 ≤ (maxSize - 9) / 10 then
        readNumber fuel (some (n.getD 0 * 10 + (c.toNat - '0'.toNat))) rest
      else (n, c :: rest)
  | _ + 1, n, [] => (n, [])

/-- The size of an integer in a format, or the one by default. -/
def readSize (l : PackLayout) (default : Nat) : Except CallFault (Nat × PackLayout) :=
  let (n, rest) := readNumber l.rest.length none l.rest
  let size := n.getD default
  if 1 ≤ size && size ≤ maxIntSize then .ok (size, { l with rest })
  else
    Call.fail ("integral size (" ++ toString size ++ ") out of limits [1," ++ toString maxIntSize
      ++ "]")

/-- The next option of a format that is not at its end, with its size. -/
def readOption (l : PackLayout) (letter : Char) (rest : List Char) :
    Except CallFault (PackOption × Nat × PackLayout) := do
  let l := { l with rest }
  let sized (kind : PackOption) (default : Nat) : Except CallFault (PackOption × Nat × PackLayout) := do
    let (size, l) ← l.readSize default
    return (kind, size, l)
  match letter with
  | 'b' => return (.int true, 1, l)
  | 'B' => return (.int false, 1, l)
  | 'h' => return (.int true, 2, l)
  | 'H' => return (.int false, 2, l)
  | 'i' => sized (.int true) 4
  | 'I' => sized (.int false) 4
  | 'l' | 'j' => return (.int true, 8, l)
  | 'L' | 'J' | 'T' => return (.int false, 8, l)
  | 'f' => return (.float true, 4, l)
  | 'n' | 'd' => return (.float false, 8, l)
  | 's' => sized .counted 8
  | 'c' =>
      match readNumber l.rest.length none l.rest with
      | (some size, rest) => return (.chars, size, { l with rest })
      | (none, _) => Call.fail "missing size for format option 'c'"
  | 'z' => return (.ended, 0, l)
  | 'x' => return (.padding, 1, l)
  | 'X' => return (.align, 0, l)
  | ' ' => return (.setting, 0, l)
  | '<' | '=' => return (.setting, 0, { l with isLittle := true })
  | '>' => return (.setting, 0, { l with isLittle := false })
  | '!' =>
      let (maxAlign, l) ← l.readSize 8
      return (.setting, 0, { l with maxAlign })
  | c =>
      .error (.failure (Bytes.ofText "invalid format option '" ++ Bytes.ofChars [c]
        ++ Bytes.ofText "'"))

/-- The next option of a format, behind so many bytes; nothing at its end. A value stands at a multiple
of its size. -/
def read (l : PackLayout) (place : Nat) : Except CallFault (Option (PackItem × PackLayout)) := do
  match l.rest with
  | [] => return none
  | letter :: rest =>
      let (kind, size, l) ← l.readOption letter rest
      let (align, l) ←
        if kind = .align then
          match l.rest with
          | [] => Call.bad 1 "invalid next option for option 'X'"
          | letter :: rest =>
              let (next, align, l) ← l.readOption letter rest
              if next = .chars || align = 0 then
                Call.bad 1 "invalid next option for option 'X'"
              else pure (align, l)
        else pure (size, l)
      if align ≤ 1 || kind = .chars then return some ({ kind, size }, l)
      let align := min align l.maxAlign
      if align &&& (align - 1) ≠ 0 then Call.bad 1 "format asks for alignment not power of 2"
      else return some ({ kind, size, padding := (align - place % align) % align }, l)

end PackLayout

/-- The layout of a format. A zero byte ends it. -/
def Call.layout (c : Call) : Except CallFault PackLayout := do
  let format ← c.str 1
  return { rest := format.chars.takeWhile (·.toNat ≠ 0) }

/-! ## Section 2: Numbers -/

/-- The last bytes of an integer, the lowest one first. -/
def lowBytes (n : Int) : Nat → List UInt8
  | 0 => []
  | count + 1 => (n % 256).toNat.toUInt8 :: lowBytes (n / 256) count

/-- Bytes with the lowest one first as they stand in a layout. -/
def PackLayout.order (l : PackLayout) (bytes : List UInt8) : List UInt8 :=
  if l.isLittle then bytes else bytes.reverse

/-- The number of bytes with the lowest one first. -/
def numberOfBytes (bytes : List UInt8) : Nat := bytes.foldr (fun b n => n * 256 + b.toNat) 0

/-- The integer of bytes with the lowest one first. Bytes that do not fit may only continue the
sign. -/
def intOfBytes (signed : Bool) (bytes : List UInt8) : Except CallFault Int64 :=
  let low := numberOfBytes (bytes.take 8)
  let size := bytes.length
  let n : Int := if signed && size < 8 && low ≥ Nat.pow 2 (8 * size - 1) then low - Nat.pow 2 (8 * size)
    else low
  let n := Int64.ofInt n
  let filler : UInt8 := if signed && n < 0 then 255 else 0
  if (bytes.drop 8).all (· = filler) then .ok n
  else Call.fail (toString size ++ "-byte integer does not fit into Lua Integer")

/-- A double as bytes, the lowest one first. -/
def bytesOfFloat (single : Bool) (x : Float) : List UInt8 :=
  if single then lowBytes x.toFloat32.toBits.toNat 4 else lowBytes x.toBits.toNat 8

/-- The double of bytes with the lowest one first. -/
def floatOfBytes (single : Bool) (bytes : List UInt8) : Float :=
  let n := numberOfBytes bytes
  if single then (Float32.ofBits n.toUInt32).toFloat else Float.ofBits n.toUInt64

/-! ## Section 3: Packing -/

/-- An argument as bytes. -/
def packValue (c : Call) (l : PackLayout) (item : PackItem) (i : Nat) :
    Except CallFault (List UInt8) := do
  let size := item.size
  match item.kind with
  | .int signed =>
      let n ← c.int i
      if size < 8 then
        if signed then
          let limit : Int := Nat.pow 2 (8 * size - 1)
          if n.toInt < -limit || n.toInt ≥ limit then Call.bad i "integer overflow"
          else return l.order (lowBytes n.toInt size)
        else if n.toUInt64.toNat ≥ Nat.pow 2 (8 * size) then Call.bad i "unsigned overflow"
        else return l.order (lowBytes n.toUInt64.toNat size)
      else return l.order (lowBytes (if signed then n.toInt else n.toUInt64.toNat) size)
  | .float single => return l.order (bytesOfFloat single (← c.float i))
  | .chars =>
      let s ← c.str i
      if s.size > size then Call.bad i "string longer than given size"
      else return s.toList ++ List.replicate (size - s.size) 0
  | .counted =>
      let s ← c.str i
      if size < 8 && s.size ≥ Nat.pow 2 (8 * size) then
        Call.bad i "string length does not fit in given size"
      else return l.order (lowBytes s.size size) ++ s.toList
  | .ended =>
      let s ← c.str i
      if s.toList.contains 0 then Call.bad i "string contains zeros"
      else return s.toList ++ [0]
  | .padding => return [0]
  | .align | .setting => return []

/-- Arguments as bytes, from one on, behind some bytes. Each step takes a letter of the format. -/
def packFrom (c : Call) : Nat → PackLayout → Nat → ByteArray → Except CallFault Bytes
  | 0, _, _, bytes => .ok bytes
  | fuel + 1, l, i, bytes => do
      match ← l.read bytes.size with
      | none => return bytes
      | some (item, l) =>
          let value ← packValue c l item i
          let bytes := (List.replicate item.padding 0 ++ value).foldl ByteArray.push bytes
          packFrom c fuel l (if item.kind.isValue then i + 1 else i) bytes

/-- Arguments as bytes by a format. -/
def stringPack (c : Call) : Except CallFault (List Val) := do
  let l ← c.layout
  return [.str (← packFrom c (l.rest.length + 1) l 2 ByteArray.empty)]

/-- The number of bytes that a format stands for, behind some bytes. -/
def packedSize : Nat → PackLayout → Nat → Except CallFault Nat
  | 0, _, place => .ok place
  | fuel + 1, l, place => do
      match ← l.read place with
      | none => return place
      | some (item, l) =>
          if item.kind = .counted || item.kind = .ended then Call.bad 1 "variable-length format"
          else
            let size := item.size + item.padding
            if place + size > PackLayout.maxSize then Call.bad 1 "format result too large"
            else packedSize fuel l (place + size)

/-- The number of bytes that a format stands for. -/
def stringPackSize (c : Call) : Except CallFault (List Val) := do
  let l ← c.layout
  return [.ofNat (← packedSize (l.rest.length + 1) l 0)]

/-! ## Section 4: Unpacking -/

/-- A value from bytes at a place, and how many bytes it takes besides its size. -/
def unpackValue (data : Bytes) (l : PackLayout) (item : PackItem) (place : Nat) :
    Except CallFault (List Val × Nat) := do
  let bytes := l.order (data.slice place (place + item.size)).toList
  match item.kind with
  | .int signed => return ([.int (← intOfBytes signed bytes)], 0)
  | .float single => return ([.float (floatOfBytes single bytes)], 0)
  | .chars => return ([.str (data.slice place (place + item.size))], 0)
  | .counted =>
      let length := (← intOfBytes false bytes).toUInt64.toNat
      let start := place + item.size
      if length > data.size - start then Call.bad 2 "data string too short"
      else return ([.str (data.slice start (start + length))], length)
  | .ended =>
      let s := (data.slice place data.size).toList.takeWhile (· ≠ 0)
      if place + s.length ≥ data.size then Call.bad 2 "unfinished string for format 'z'"
      else return ([.str ⟨s.toArray⟩], s.length + 1)
  | .padding | .align | .setting => return ([], 0)

/-- Values from bytes from a place on, and the place behind them. The values so far are in reverse. -/
def unpackFrom (data : Bytes) : Nat → PackLayout → Nat → List Val → Except CallFault (List Val)
  | 0, _, _, values => .ok values.reverse
  | fuel + 1, l, place, values => do
      match ← l.read place with
      | none => return (Val.ofNat (place + 1) :: values).reverse
      | some (item, l) =>
          if item.padding + item.size > data.size - place then Call.bad 2 "data string too short"
          else
            let place := place + item.padding
            let (found, more) ← unpackValue data l item place
            unpackFrom data fuel l (place + item.size + more) (found ++ values)

/-- Values from bytes by a format. -/
def stringUnpack (c : Call) : Except CallFault (List Val) := do
  let l ← c.layout
  let data ← c.str 2
  let place := startPlace data.size (← c.optInt 3 1) - 1
  if place > data.size then Call.bad 3 "initial position out of string"
  else unpackFrom data (l.rest.length + 1) l place []

/-- The functions of values in bytes. -/
def packFunctions : List (String × Native) :=
  [pureNative "pack" stringPack, pureNative "packsize" stringPackSize,
    pureNative "unpack" stringUnpack]

end Folio.Lua
