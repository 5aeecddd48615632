import Folio.Decimal.Binary64

/-!
# Shortest decimal digits

The fewest decimal digits that read back as a given double, and of those the ones nearest to it.

For each digit count the double has at most two neighbours on the decimal grid; the first count for
which one of them lies in the interval of reals that round to the double wins.

Main definitions:
- `Decimal.shortest`: digits and exponent
- `Decimal.positional`: the digits laid out without an exponent
-/

namespace Folio.Decimal

/-- The greatest `k` with `10 ^ k ≤ num / den`, for a positive quotient. -/
def floorLog10 (num den : Nat) : Int :=
  let estimate : Int := ((Nat.log2 num : Int) - (Nat.log2 den : Int)) * 30103 / 100000
  let reaches (k : Int) : Bool :=
    if k ≥ 0 then num ≥ den * Nat.pow 10 k.toNat else num * Nat.pow 10 (-k).toNat ≥ den
  if reaches (estimate + 2) then estimate + 2
  else if reaches (estimate + 1) then estimate + 1
  else if reaches estimate then estimate
  else if reaches (estimate - 1) then estimate - 1
  else estimate - 2

/-- Drop trailing zeros of the digits, raising the exponent. -/
def trimZeros : Nat → Nat → Int → Nat × Int
  | 0, digits, e => (digits, e)
  | fuel + 1, digits, e =>
      if digits ≠ 0 ∧ digits % 10 = 0 then trimZeros fuel (digits / 10) (e + 1) else (digits, e)

/-- Search the grids of `count`, `count + 1`, … digits for one that hits the interval. -/
def searchGrid (fuel count : Nat) (low value high den : Nat) (closed : Bool) (top : Int) :
    Nat × Int :=
  match fuel with
  | 0 => (value / den, 0)
  | fuel + 1 =>
      let k : Int := top - (count : Int) + 1
      -- scale so that grid points are the whole numbers
      let (low', value', high', den') :=
        if k ≥ 0 then (low, value, high, den * Nat.pow 10 k.toNat)
        else
          let s := Nat.pow 10 (-k).toNat
          (low * s, value * s, high * s, den)
      let below := value' / den'
      let above := below + 1
      let inside (c : Nat) : Bool :=
        if closed then low' ≤ c * den' ∧ c * den' ≤ high' else low' < c * den' ∧ c * den' < high'
      let takeBelow := value' - below * den' ≤ above * den' - value'
      if inside below ∧ (takeBelow ∨ ¬ inside above) then trimZeros 20 below k
      else if inside above then trimZeros 20 above k
      else searchGrid fuel (count + 1) low value high den closed top

/-- The shortest digits `d` and exponent `e` such that `d * 10 ^ e` reads back as `m * 2 ^ q`. -/
def shortest (m : Nat) (q : Int) : Nat × Int :=
  if m = 0 then (0, 0)
  else
    let gapBelow := if m = Nat.pow 2 52 ∧ q > -1074 then 1 else 2
    let scale (n : Nat) : Nat := if q - 2 ≥ 0 then n <<< (q - 2).toNat else n
    let den := if q - 2 ≥ 0 then 1 else 1 <<< (2 - q).toNat
    let value := scale (4 * m)
    searchGrid 25 1 (scale (4 * m - gapBelow)) value (scale (4 * m + 2)) den (m % 2 = 0)
      (floorLog10 value den)

/-- `digits * 10 ^ e` written out without an exponent, with a point only before a fraction. -/
def positional (digits : Nat) (e : Int) : String :=
  let text := toString digits
  if e ≥ 0 then (if digits = 0 then "0" else text ++ String.ofList (List.replicate e.toNat '0'))
  else
    let places := (-e).toNat
    let cs := text.toList
    if cs.length > places then
      String.ofList (cs.take (cs.length - places)) ++ "."
        ++ String.ofList (cs.drop (cs.length - places))
    else "0." ++ String.ofList (List.replicate (places - cs.length) '0') ++ text

/-- Digits with a point after the first, if there are more. -/
def pointed : List Char → String
  | [] => "0"
  | [c] => String.singleton c
  | c :: rest => String.singleton c ++ "." ++ String.ofList rest

/-- A double in its shortest positional form: no exponent, however large or small it is. -/
def floatText (x : Float) : String :=
  match Binary64.parts x with
  | .nan => "NaN"
  | .infinity negative => if negative then "-inf" else "inf"
  | .finite negative m q =>
      let (digits, e) := shortest m q
      (if negative then "-" else "") ++ positional digits e

end Folio.Decimal
