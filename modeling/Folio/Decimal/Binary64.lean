/-!
# Doubles as exact dyadic numbers

A finite double is a natural number times a power of two. All printing and reading of floats goes
through this exact form.

Main definitions:
- `Binary64.Parts`: a double taken apart
- `Binary64.ofDyadic`, `Binary64.ofDecimal`: the double nearest to an exact number
-/

namespace Folio.Binary64

/-- A double taken apart: no number, an infinity, or plus or minus `m * 2 ^ q`. -/
inductive Parts where
  | nan
  | infinity (negative : Bool)
  | finite (negative : Bool) (m : Nat) (q : Int)

/-- The exact parts of a double. -/
def parts (x : Float) : Parts :=
  let bits : Nat := x.toBits.toNat
  let negative := bits / Nat.pow 2 63 = 1
  let exponent : Nat := bits / Nat.pow 2 52 % 2048
  let fraction : Nat := bits % Nat.pow 2 52
  if exponent = 2047 then
    if fraction = 0 then .infinity negative else .nan
  else if exponent = 0 then .finite negative fraction (-1074)
  else .finite negative (fraction + Nat.pow 2 52) ((exponent : Int) - 1075)

/-- Whether the sign bit is set, also for zero. -/
def isNegative (x : Float) : Bool := x.toBits.toNat / Nat.pow 2 63 = 1

/-- The quotient rounded to the nearest natural number, a half going to the even neighbour. -/
def divNearestEven (num den : Nat) : Nat :=
  let quotient := num / den
  let twice := 2 * (num % den)
  if twice > den ∨ (twice = den ∧ quotient % 2 = 1) then quotient + 1 else quotient

/-- The double nearest to `num / den`, a tie going to the even significand. -/
def ofRatio (num den : Nat) : Float :=
  if num = 0 then 0.0
  else
    -- the exponent that gives a significand of 53 bits, or that of the subnormal numbers
    let guess : Int := (Nat.log2 num : Int) - (Nat.log2 den : Int) - 53
    let shifted (q : Int) : Nat × Nat :=
      if q ≥ 0 then (num, den <<< q.toNat) else (num <<< (-q).toNat, den)
    let wide (q : Int) : Bool := let (n, d) := shifted q; n / d ≥ Nat.pow 2 53
    let q := if wide guess then (if wide (guess + 1) then guess + 2 else guess + 1) else guess
    let q := max q (-1074)
    let (n, d) := shifted q
    let m := divNearestEven n d
    let (m, q) := if m = Nat.pow 2 53 then (Nat.pow 2 52, q + 1) else (m, q)
    if m < Nat.pow 2 52 then Float.ofBits m.toUInt64
    else
      let biased := q + 1075
      if biased ≥ 2047 then Float.ofBits (2047 * Nat.pow 2 52 : Nat).toUInt64
      else Float.ofBits (biased.toNat * Nat.pow 2 52 + (m - Nat.pow 2 52)).toUInt64

/-- The double nearest to `m * 2 ^ q`. -/
def ofDyadic (m : Nat) (q : Int) : Float :=
  if m = 0 then 0.0
  else if q + Nat.log2 m > 1100 then Float.ofBits (2047 * Nat.pow 2 52 : Nat).toUInt64
  else if q + Nat.log2 m < -1200 then 0.0
  else if q ≥ 0 then ofRatio (m <<< q.toNat) 1 else ofRatio m (1 <<< (-q).toNat)

/-- The number of decimal digits. -/
def digitCount (n : Nat) : Nat := (Nat.toDigits 10 n).length

/-- The double nearest to `m * 10 ^ e`. -/
def ofDecimal (m : Nat) (e : Int) : Float :=
  if m = 0 then 0.0
  else
    let magnitude := e + digitCount m
    if magnitude > 400 then Float.ofBits (2047 * Nat.pow 2 52 : Nat).toUInt64
    else if magnitude < -400 then 0.0
    else if e ≥ 0 then ofRatio (m * Nat.pow 10 e.toNat) 1 else ofRatio m (Nat.pow 10 (-e).toNat)

/-- The whole number that a float equals, if it is one. -/
def toInt? (x : Float) : Option Int :=
  match parts x with
  | .finite negative m q =>
      let magnitude : Option Nat :=
        if q ≥ 0 then some (m <<< q.toNat)
        else
          let k := (-q).toNat
          if m % Nat.pow 2 k = 0 then some (m / Nat.pow 2 k) else none
      magnitude.map fun n => if negative then -(n : Int) else (n : Int)
  | _ => none

/-- The double nearest to a whole number. -/
def ofInt (n : Int) : Float :=
  let x := ofRatio n.natAbs 1
  if n < 0 then -x else x

/-- The remainder of a division whose quotient is rounded toward zero, computed exactly. -/
def remainder (x y : Float) : Float :=
  match parts x, parts y with
  | .finite negative m q, .finite _ n r =>
      if n = 0 then 0.0 / 0.0
      else
        let low := min q r
        let z := ofDyadic ((m <<< (q - low).toNat) % (n <<< (r - low).toNat)) low
        if negative then -z else z
  | .finite _ _ _, .infinity _ => x
  | _, _ => 0.0 / 0.0

end Folio.Binary64
