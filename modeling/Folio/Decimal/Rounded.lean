import Folio.Decimal.Shortest

/-!
# Decimals of a chosen length

Doubles rounded to a number of decimal places or of significant digits, computed from the exact
value, a tie going to the even digit.

Main definitions:
- `Decimal.fixedText`: a given number of places
- `Decimal.scientificText`: one digit, a given number of places, and an exponent
- `Decimal.generalText`: a given number of significant digits, in the shorter of the two layouts
-/

namespace Folio.Decimal

/-- The whole number nearest to `m * 2 ^ q * 10 ^ places`. -/
def scaledNearest (m : Nat) (q places : Int) : Nat :=
  let num := if q ≥ 0 then m <<< q.toNat else m
  let den := if q ≥ 0 then 1 else 1 <<< (-q).toNat
  if places ≥ 0 then Binary64.divNearestEven (num * Nat.pow 10 places.toNat) den
  else Binary64.divNearestEven num (den * Nat.pow 10 (-places).toNat)

/-- `m * 2 ^ q` with exactly `places` digits after the point. -/
def fixedText (m : Nat) (q : Int) (places : Nat) : String :=
  let cs := (toString (scaledNearest m q places)).toList
  let cs := List.replicate (places + 1 - cs.length) '0' ++ cs
  if places = 0 then String.ofList cs
  else
    String.ofList (cs.take (cs.length - places)) ++ "."
      ++ String.ofList (cs.drop (cs.length - places))

/-- The `count` leading digits of `m * 2 ^ q` and the exponent of the first. -/
def leadingDigits (m : Nat) (q : Int) (count : Nat) : List Char × Int :=
  if m = 0 then (List.replicate count '0', 0)
  else
    let num := if q ≥ 0 then m <<< q.toNat else m
    let den := if q ≥ 0 then 1 else 1 <<< (-q).toNat
    let top := floorLog10 num den
    let digits := scaledNearest m q ((count : Int) - 1 - top)
    if digits ≥ Nat.pow 10 count then ((toString (digits / 10)).toList, top + 1)
    else ((toString digits).toList, top)

/-- An exponent with its sign and at least two digits. -/
def exponentText (e : Int) : String :=
  let digits := toString e.natAbs
  (if e < 0 then "-" else "+") ++ (if digits.length < 2 then "0" ++ digits else digits)

/-- One digit before the point, `places` after it, and an exponent. -/
def scientificText (m : Nat) (q : Int) (places : Nat) : String :=
  let (digits, e) := leadingDigits m q (places + 1)
  pointed digits ++ "e" ++ exponentText e

/-- Drop zeros from the end. -/
def dropTrailingZeros (cs : List Char) : List Char :=
  (cs.reverse.dropWhile (· == '0')).reverse

/-- `significant` digits, positional when the exponent lies between -5 and that number, with
trailing zeros of the fraction dropped unless `keepZeros`. -/
def generalText (m : Nat) (q : Int) (significant : Nat) (keepZeros : Bool) : String :=
  let p := max significant 1
  let (digits, e) := leadingDigits m q p
  if e < -4 ∨ e ≥ p then
    let digits := if keepZeros then digits
      else match digits with
        | [] => []
        | c :: rest => c :: dropTrailingZeros rest
    pointed digits ++ "e" ++ exponentText e
  else if e ≥ 0 then
    let whole := digits.take (e.toNat + 1)
    let fraction := digits.drop (e.toNat + 1)
    let fraction := if keepZeros then fraction else dropTrailingZeros fraction
    String.ofList whole ++ (if fraction.isEmpty then "" else "." ++ String.ofList fraction)
  else
    let fraction := List.replicate ((-e).toNat - 1) '0' ++ digits
    let fraction := if keepZeros then fraction else dropTrailingZeros fraction
    "0" ++ (if fraction.isEmpty then "" else "." ++ String.ofList fraction)

end Folio.Decimal
