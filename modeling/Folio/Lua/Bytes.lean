import Folio.Decimal.Digits

/-!
# Byte strings

The strings of scripts are sequences of bytes. For reading and taking apart, a byte string is also a
list of characters, one for each byte.

Main definitions:
- `Lua.Bytes.ofText`, `Lua.Bytes.text?`: from and to texts in UTF-8
- `Lua.Bytes.ofChars`, `Lua.Bytes.chars`: from and to characters that stand for bytes
- `Lua.Bytes.compare`: order
- `Lua.Bytes.mixed`: a number for the place of a string in a table
-/

namespace Folio.Lua

/-- A string of a script. -/
abbrev Bytes := ByteArray

namespace Bytes

/-- The bytes of a text. -/
def ofText (s : String) : Bytes := s.toUTF8

/-- The text that bytes encode, if they do. -/
def text? (b : Bytes) : Option String := String.fromUTF8? b

/-- The bytes that characters stand for. -/
def ofChars (cs : List Char) : Bytes := ByteArray.mk (cs.map fun c => c.toNat.toUInt8).toArray

/-- Characters that stand for bytes. -/
def chars (b : Bytes) : List Char := b.toList.map fun byte => Char.ofNat byte.toNat

/-- The text of an ASCII string; other bytes become the characters of their number. -/
def ascii (b : Bytes) : String := String.ofList b.chars

/-- The byte at a place. -/
def at? (b : Bytes) (i : Nat) : Option UInt8 := if h : i < b.size then some b[i] else none

/-- The byte at a place, or zero past the end. -/
def byteAt (b : Bytes) (i : Nat) : UInt8 := (b.at? i).getD 0

/-- The bytes from `start` up to before `stop`. -/
def slice (b : Bytes) (start stop : Nat) : Bytes := b.extract start stop

/-- Order of lists of bytes: by the first difference, a shorter one first. -/
def compareLists : List UInt8 → List UInt8 → Ordering
  | [], [] => .eq
  | [], _ => .lt
  | _, [] => .gt
  | a :: as, b :: bs => if a < b then .lt else if b < a then .gt else compareLists as bs

/-- Order by bytes. -/
def compare (a b : Bytes) : Ordering := compareLists a.toList b.toList

/-- A number that every byte has a part in, from the last byte on. Tables spread strings by it. -/
def mixed (b : Bytes) : UInt32 :=
  b.data.foldr (fun byte h => h ^^^ ((h <<< 5) + (h >>> 2) + byte.toUInt32)) (UInt32.ofNat b.size)

/-- Byte strings put together with another one between them. -/
def join (separator : Bytes) : List Bytes → Bytes
  | [] => ByteArray.empty
  | first :: rest => rest.foldl (fun acc b => (acc ++ separator) ++ b) first

end Bytes

/-- Whether a character is white space in ASCII. -/
def isBlank (c : Char) : Bool := c = ' ' || (0x09 ≤ c.toNat && c.toNat ≤ 0x0D)

end Folio.Lua
