import Folio.Decimal.Rounded
import Folio.Lua.Bytes

/-!
# Numbers

A number is an integer of 64 bits, which wraps around, or a double. Texts can be numbers, in decimal
and hexadecimal notation.

Main definitions:
- `Lua.Number`, `Lua.Number.text`
- `Lua.Number.ofChars?`: the number that a text is
- `Lua.exactInt?`, `Lua.floorInt?`, `Lua.ceilInt?`: integers from doubles
-/

namespace Folio.Lua

/-- A number. -/
inductive Number where
  | int (n : Int64)
  | float (x : Float)
deriving Inhabited

/-! ## Section 1: Integers and doubles -/

/-- An integer as a double, rounded to the nearest. -/
def floatOfInt (n : Int64) : Float := Binary64.ofInt n.toInt

/-- A whole number as an integer of 64 bits, if it fits. -/
def fitInt? (n : Int) : Option Int64 :=
  if -(Nat.pow 2 63) ≤ n && n < Nat.pow 2 63 then some (Int64.ofInt n) else none

/-- The integer that a double equals. -/
def exactInt? (x : Float) : Option Int64 := (Binary64.toInt? x).bind fitInt?

/-- The greatest integer not above a double. -/
def floorInt? (x : Float) : Option Int64 := exactInt? x.floor

/-- The least integer not below a double. -/
def ceilInt? (x : Float) : Option Int64 := exactInt? x.ceil

/-- A number as a double. -/
def Number.toFloat : Number → Float
  | .int n => floatOfInt n
  | .float x => x

/-- A number as an integer, if it equals one. -/
def Number.toInt? : Number → Option Int64
  | .int n => some n
  | .float x => exactInt? x

/-! ## Section 2: Texts of numbers -/

/-- The sign of a negative number. -/
def signText (negative : Bool) : String := if negative then "-" else ""

/-- How many significant digits the text of a double has. -/
def significantDigits : Nat := 14

/-- A double as text: up to fourteen significant digits, and a point or an exponent in it. -/
def floatText (x : Float) : String :=
  match Binary64.parts x with
  | .nan => "-nan"
  | .infinity negative => signText negative ++ "inf"
  | .finite negative m q =>
      let digits := Decimal.generalText m q significantDigits false
      signText negative ++ (if digits.all Char.isDigit then digits ++ ".0" else digits)

/-- A number as text. -/
def Number.text : Number → String
  | .int n => toString n.toInt
  | .float x => floatText x

/-! ## Section 3: Numbers in texts -/

/-- Whether a character is a hexadecimal digit. -/
def isHexDigit (c : Char) : Bool := (Decimal.hexDigit? c).isSome

/-- The value of hexadecimal digits. -/
def hexValue (cs : List Char) : Nat :=
  cs.foldl (fun n c => n * 16 + (Decimal.hexDigit? c).getD 0) 0

/-- The value of an exponent: a sign and digits. -/
def exponent? (cs : List Char) : Option Int :=
  let digits := Decimal.dropSign ['-', '+'] cs
  if digits.isEmpty || !digits.all Char.isDigit then none
  else
    (Decimal.digitsInBase? 10 digits).map fun n =>
      if cs.head? = some '-' then -(n : Int) else (n : Int)

/-- A hexadecimal number without sign and mark. Without point and exponent it is an integer, of
which the last 64 bits count. -/
def hexNumber? (cs : List Char) : Option Number :=
  let whole := cs.takeWhile isHexDigit
  let rest := cs.drop whole.length
  let (fraction, rest, pointed) := match rest with
    | '.' :: more =>
        let digits := more.takeWhile isHexDigit
        (digits, more.drop digits.length, true)
    | _ => ([], rest, false)
  if whole.isEmpty && fraction.isEmpty then none
  else
    let float (e : Int) : Number :=
      .float (Binary64.ofDyadic (hexValue (whole ++ fraction)) (e - 4 * fraction.length))
    match rest with
    | [] => some (if pointed then float 0 else .int (Int64.ofInt (hexValue whole)))
    | c :: more => if c = 'p' || c = 'P' then (exponent? more).map float else none

/-- A decimal number without sign. An integer that does not fit is a double. -/
def decimalNumber? (negative : Bool) (cs : List Char) : Option Number :=
  if cs.isEmpty then none
  else if cs.all Char.isDigit then
    let n : Int := (Decimal.digitsInBase? 10 cs).getD 0
    match fitInt? (if negative then -n else n) with
    | some i => some (.int i)
    | none => (Decimal.floatOfText? cs).map fun x => .float (if negative then -x else x)
  else if cs.head?.any fun c => c.isDigit || c = '.' then
    (Decimal.floatOfText? cs).map fun x => .float (if negative then -x else x)
  else none

/-- A number with its sign turned. -/
def Number.negated : Number → Number
  | .int n => .int (-n)
  | .float x => .float (-x)

/-- The number that a text is: a sign if any, and a decimal or hexadecimal number, with white space
around it. -/
def Number.ofChars? (cs : List Char) : Option Number :=
  let cs := cs.dropWhile isBlank
  let cs := (cs.reverse.dropWhile isBlank).reverse
  let negative := cs.head? = some '-'
  let digits := Decimal.dropSign ['-', '+'] cs
  match digits with
  | '0' :: x :: rest =>
      if x = 'x' || x = 'X' then
        (hexNumber? rest).map fun n => if negative then n.negated else n
      else decimalNumber? negative digits
  | _ => decimalNumber? negative digits

end Folio.Lua
