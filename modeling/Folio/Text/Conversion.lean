import Folio.Decimal.Rounded

/-!
# Conversions

A conversion says how one datum stands in a formatted text: on which side it is filled up to which
width, with what sign, in how many digits and in which notation.

Main definitions:
- `Text.Conversion`: flags, width, precision and letter
- `Text.Conversion.pad`, `Text.Conversion.padNumber`: filling up
- `Text.Conversion.whole`, `Text.Conversion.double`: numbers as text
-/

namespace Folio.Text

/-! ## Section 1: Flags and filling -/

/-- A conversion. -/
structure Conversion where
  left : Bool := false
  plus : Bool := false
  space : Bool := false
  alternative : Bool := false
  zero : Bool := false
  width : Nat := 0
  precision : Option Nat := none
  letter : Char := 's'
  /-- Whether what is not a number has a minus sign. -/
  signsNan : Bool := false
deriving Inhabited

namespace Conversion

/-- Add a flag. -/
def addFlag (c : Conversion) (flag : Char) : Conversion :=
  match flag with
  | '-' => { c with left := true }
  | '+' => { c with plus := true }
  | ' ' => { c with space := true }
  | '#' => { c with alternative := true }
  | _ => { c with zero := true }

/-- Fill a text up to the width with spaces. -/
def pad (c : Conversion) (cs : List Char) : List Char :=
  let fill := List.replicate (c.width - cs.length) ' '
  if c.left then cs ++ fill else fill ++ cs

/-- Fill a number with a sign up to the width: with zeros after the sign if they are asked for. -/
def padNumber (c : Conversion) (zeros : Bool) (sign digits : List Char) : List Char :=
  if c.zero && zeros && !c.left then
    sign ++ List.replicate (c.width - sign.length - digits.length) '0' ++ digits
  else c.pad (sign ++ digits)

/-- The sign before a number. -/
def sign (c : Conversion) (negative : Bool) : List Char :=
  if negative then ['-'] else if c.plus then ['+'] else if c.space then [' '] else []

/-- A text cut to the precision and filled up. -/
def text (c : Conversion) (cs : List Char) : List Char :=
  c.pad (match c.precision with
    | some n => cs.take n
    | none => cs)

/-! ## Section 2: Whole numbers -/

/-- Digits with zeros in front, as many as the precision asks for. -/
def withPrecision (c : Conversion) (digits : List Char) : List Char :=
  match c.precision with
  | none => digits
  | some n =>
      if n = 0 && digits = ['0'] then []
      else List.replicate (n - digits.length) '0' ++ digits

/-- A whole number after its sign, in the base that the letter stands for. -/
def whole (c : Conversion) (sign : List Char) (n : Nat) : List Char :=
  let zeros := c.precision.isNone
  match c.letter with
  | 'o' =>
      let digits := c.withPrecision (Nat.toDigits 8 n)
      let digits := if c.alternative && digits.head? ≠ some '0' then '0' :: digits else digits
      c.padNumber zeros sign digits
  | 'x' =>
      let mark := if c.alternative && n ≠ 0 then ['0', 'x'] else []
      c.padNumber zeros (sign ++ mark) (c.withPrecision (Nat.toDigits 16 n))
  | 'X' =>
      let mark := if c.alternative && n ≠ 0 then ['0', 'X'] else []
      c.padNumber zeros (sign ++ mark) ((c.withPrecision (Nat.toDigits 16 n)).map Char.toUpper)
  | _ => c.padNumber zeros sign (c.withPrecision (toString n).toList)

/-! ## Section 3: Doubles -/

/-- The hexadecimal digits of a fraction of 52 bits, without zeros at the end; with a precision, that
many digits, rounded. Together with what is carried to the digit before. -/
def hexFraction (precision : Option Nat) (fraction : Nat) : Nat × List Char :=
  let digits (count value : Nat) : List Char :=
    let ds := Nat.toDigits 16 value
    List.replicate (count - ds.length) '0' ++ ds
  match precision with
  | none => (0, Decimal.dropTrailingZeros (digits 13 fraction))
  | some p =>
      if p ≥ 13 then (0, digits 13 fraction ++ List.replicate (p - 13) '0')
      else
        let rounded := Binary64.divNearestEven fraction (Nat.pow 16 (13 - p))
        if rounded ≥ Nat.pow 16 p then (1, if p = 0 then [] else digits p (rounded - Nat.pow 16 p))
        else (0, if p = 0 then [] else digits p rounded)

/-- A double in hexadecimal notation, after its sign. -/
def hexFloat (precision : Option Nat) (m : Nat) (q : Int) : List Char :=
  let (whole, fraction, exponent) : Nat × Nat × Int :=
    if m = 0 then (0, 0, 0)
    else if m ≥ Nat.pow 2 52 then (1, m - Nat.pow 2 52, q + 52)
    else (0, m, -1022)
  let (carry, digits) := hexFraction precision fraction
  let exponentText := (if exponent < 0 then "-" else "+") ++ toString exponent.natAbs
  ['0', 'x'] ++ (toString (whole + carry)).toList
    ++ (if digits.isEmpty then [] else '.' :: digits) ++ 'p' :: exponentText.toList

/-- Digits with a point in them: before the exponent, if there was none. -/
def withPoint (cs : List Char) : List Char :=
  if cs.contains '.' then cs
  else
    let whole := cs.takeWhile fun c => c ≠ 'e' && c ≠ 'p'
    whole ++ '.' :: cs.drop whole.length

/-- A double as text. The alternative form always has a point. -/
def double (c : Conversion) (x : Float) : List Char :=
  let upper := c.letter.isUpper
  let finish (cs : List Char) : List Char := if upper then cs.map Char.toUpper else cs
  match Binary64.parts x with
  | .nan => finish (c.pad ((if c.signsNan then ['-'] else c.sign false) ++ "nan".toList))
  | .infinity negative => finish (c.pad (c.sign negative ++ "inf".toList))
  | .finite negative m q =>
      let places := c.precision.getD 6
      let digits := match c.letter.toLower with
        | 'f' => (Decimal.fixedText m q places).toList
        | 'e' => (Decimal.scientificText m q places).toList
        | 'a' => hexFloat c.precision m q
        | _ => (Decimal.generalText m q places c.alternative).toList
      let digits := if c.alternative then withPoint digits else digits
      finish (c.padNumber true (c.sign negative) digits)

end Conversion

end Folio.Text
