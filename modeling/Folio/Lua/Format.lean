import Folio.Lua.Library.Arguments
import Folio.Text.Conversion

/-!
# Formatted texts

A format is a text with conversions in it, each for one argument. A conversion begins with a percent
sign and has flags, a width, a precision and a letter. Each letter allows some flags only.

Main definitions:
- `Lua.FormatItem`: a conversion as it is written
- `Lua.FormatItem.conversion?`: what it means
- `Lua.integerText`, `Lua.quoted`: an argument as text
-/

namespace Folio.Lua

open Text (Conversion)

/-! ## Section 1: Conversions as they are written -/

/-- A conversion: what stands between its percent sign and its letter, and the letter. -/
structure FormatItem where
  modifiers : List Char
  /-- At the end of a format there is none. -/
  letter : Option Char

namespace FormatItem

/-- What can stand before the letter of a conversion. -/
def modifierChars : List Char := "-+ #0123456789.".toList

/-- The greatest number of characters before the letter of a conversion. -/
def maxModifiers : Nat := 20

/-- A conversion after its percent sign, and what follows it. -/
def read (cs : List Char) : FormatItem × List Char :=
  let modifiers := cs.takeWhile modifierChars.contains
  let rest := cs.drop modifiers.length
  (⟨modifiers, rest.head?⟩, rest.drop 1)

/-- A conversion as it is written. -/
def text (item : FormatItem) : Bytes :=
  Bytes.ofChars ('%' :: item.modifiers ++ (item.letter.toList.takeWhile (·.toNat ≠ 0)))

/-- The value of digits. -/
def digitsValue (cs : List Char) : Nat := (Decimal.digitsInBase? 10 cs).getD 0

/-- What a conversion means. Its letter allows some flags and a precision or none; width and precision
have at most two digits, and a width does not begin with zero. -/
def conversion? (item : FormatItem) (flags : String) (precision : Bool) : Option Conversion :=
  let given := item.modifiers.takeWhile flags.toList.contains
  let rest := item.modifiers.drop given.length
  let width := if rest.head? = some '0' then [] else (rest.takeWhile Char.isDigit).take 2
  let rest := rest.drop width.length
  let places := match rest with
    | '.' :: more => if precision then some ((more.takeWhile Char.isDigit).take 2) else none
    | _ => none
  let rest := match places with
    | some digits => rest.drop (digits.length + 1)
    | none => rest
  if !rest.isEmpty then none
  else
    some (given.foldl Conversion.addFlag
      { width := digitsValue width, precision := places.map digitsValue
        letter := item.letter.getD 's', signsNan := true })

/-- What a conversion means, or why it means nothing. -/
def conversion (item : FormatItem) (flags : String) (precision : Bool) :
    Except CallFault Conversion :=
  match item.conversion? flags precision with
  | some c => .ok c
  | none =>
      .error (.failure (Bytes.ofText "invalid conversion specification: '" ++ item.text
        ++ Bytes.ofText "'"))

end FormatItem

/-! ## Section 2: Integers -/

/-- An integer as text. Without a sign it is taken as 64 bits. -/
def integerText (c : Conversion) (n : Int64) : List Char :=
  match c.letter with
  | 'd' | 'i' => c.whole (c.sign (n.toInt < 0)) n.toInt.natAbs
  | _ => c.whole [] n.toUInt64.toNat

/-! ## Section 3: Values -/

/-- A string between quotation marks, as it is written in a program. -/
def quotedChars : List Char → List Char
  | [] => []
  | c :: rest =>
      let n := c.toNat
      if c = '"' || c = '\\' then '\\' :: c :: quotedChars rest
      else if c = '\n' then '\\' :: '\n' :: quotedChars rest
      else if n < 32 || n = 127 then
        let digits := (toString n).toList
        let digits := if rest.head?.any Char.isDigit then
          List.replicate (3 - digits.length) '0' ++ digits else digits
        '\\' :: digits ++ quotedChars rest
      else c :: quotedChars rest

/-- A value as it is written in a program. -/
def quoted (c : Call) (i : Nat) : Except CallFault (List Char) :=
  match c.arg i with
  | .str s => .ok ('"' :: quotedChars s.chars ++ ['"'])
  | .int n =>
      .ok (if n.toInt = -(Nat.pow 2 63) then "0x8000000000000000".toList else (toString n.toInt).toList)
  | .float x =>
      match Binary64.parts x with
      | .nan => .ok "(0/0)".toList
      | .infinity negative => .ok (if negative then "-1e9999" else "1e9999").toList
      | .finite negative m q => .ok ((if negative then ['-'] else []) ++ Conversion.hexFloat none m q)
  | .nil => .ok "nil".toList
  | .bool b => .ok (if b then "true" else "false").toList
  | _ => Call.bad i "value has no literal form"

/-- An argument as text under a conversion, for conversions that need no calls. -/
def convertArgument (c : Call) (i : Nat) (item : FormatItem) : Except CallFault (List Char) := do
  match item.letter with
  | some 'c' =>
      let n ← c.int i
      let conversion ← item.conversion "-" false
      return conversion.pad [Char.ofNat (n.toUInt64.toNat % 256)]
  | some 'd' | some 'i' => do
      let n ← c.int i
      return integerText (← item.conversion "-+0 " true) n
  | some 'u' => do
      let n ← c.int i
      return integerText (← item.conversion "-0" true) n
  | some 'o' | some 'x' | some 'X' => do
      let n ← c.int i
      return integerText (← item.conversion "-#0" true) n
  | some 'a' | some 'A' | some 'e' | some 'E' | some 'f' | some 'g' | some 'G' => do
      let x ← c.float i
      return (← item.conversion "-+#0 " true).double x
  | some 'p' =>
      let conversion ← item.conversion "-" false
      return conversion.pad ((c.arg i).address?.getD "(null)").toList
  | some 'q' =>
      if item.modifiers.isEmpty then quoted c i
      else Call.fail "specifier '%q' cannot have modifiers"
  | _ =>
      .error (.failure (Bytes.ofText "invalid conversion '" ++ item.text
        ++ Bytes.ofText "' to 'format'"))

/-- The length from which on a string without precision is not filled up. -/
def longText : Nat := 100

/-- A string under a conversion. -/
def convertText (i : Nat) (item : FormatItem) (s : Bytes) : Except CallFault (List Char) := do
  if item.modifiers.isEmpty then return s.chars
  if s.toList.contains 0 then Call.bad i "string contains zeros"
  else
    let conversion ← item.conversion "-" true
    if conversion.precision.isNone && s.size ≥ longText then return s.chars
    else return conversion.text s.chars

end Folio.Lua
