import Folio.Decimal.Binary64

/-!
# Numbers from digits

Main definitions:
- `Decimal.digitsInBase?`: a natural number from digits of a base
- `Decimal.hexNumber?`: a natural number from a given number of hexadecimal digits
- `Decimal.floatOfText?`: a float from a decimal fraction
-/

namespace Folio.Decimal

/-- The value of a hexadecimal digit. -/
def hexDigit? (c : Char) : Option Nat :=
  if '0' ≤ c ∧ c ≤ '9' then some (c.toNat - '0'.toNat)
  else if 'a' ≤ c ∧ c ≤ 'f' then some (c.toNat - 'a'.toNat + 10)
  else if 'A' ≤ c ∧ c ≤ 'F' then some (c.toNat - 'A'.toNat + 10)
  else none

/-- The number that exactly `count` hexadecimal digits write. -/
def hexNumber? (count : Nat) (cs : List Char) : Option Nat :=
  let digits := cs.take count
  if digits.length < count then none
  else digits.foldl (fun acc c => do return (← acc) * 16 + (← hexDigit? c)) (some 0)

/-- The number that digits of a base write; nothing if there are none. -/
def digitsInBase? (base : Nat) (cs : List Char) : Option Nat :=
  if cs.isEmpty then none
  else cs.foldl (fun acc c => do
    let n ← acc
    let d ← hexDigit? c
    if d < base then return n * base + d else none) (some 0)

/-- The text after an optional sign of the given kinds. -/
def dropSign (signs : List Char) : List Char → List Char
  | c :: rest => if signs.contains c then rest else c :: rest
  | [] => []

/-- Read a decimal fraction with an optional exponent; a digit must stand before or after the
point. -/
def floatOfText? (cs : List Char) : Option Float :=
  let negative := cs.head? = some '-'
  let cs := dropSign ['-', '+'] cs
  let whole := cs.takeWhile Char.isDigit
  let rest := cs.dropWhile Char.isDigit
  let (fraction, rest) := match rest with
    | '.' :: more => (more.takeWhile Char.isDigit, more.dropWhile Char.isDigit)
    | _ => ([], rest)
  let exponent? : Option Int := match rest with
    | [] => some 0
    | e :: more =>
        if e = 'e' || e = 'E' then
          let minus := more.head? = some '-'
          (digitsInBase? 10 (dropSign ['-', '+'] more)).map fun n =>
            if minus then -(n : Int) else (n : Int)
        else none
  if whole.isEmpty && fraction.isEmpty then none
  else
    exponent?.map fun e =>
      let digits := (digitsInBase? 10 (whole ++ fraction)).getD 0
      let x := Binary64.ofDecimal digits (e - fraction.length)
      if negative then -x else x

end Folio.Decimal
