import Folio.Decimal.Digits

/-!
# The meaning of plain scalars

A plain scalar is null, a boolean, a number or else text, by its spelling alone.

Main definitions:
- `Yaml.Plain`: what a plain scalar can mean
- `Yaml.Plain.ofText`: the meaning of a spelling
-/

namespace Folio.Yaml

/-- The meaning of a plain scalar. -/
inductive Plain where
  | null
  | bool (b : Bool)
  | int (n : Int)
  | float (x : Float)
  | text

/-- The spellings of null. -/
def isNullText (s : String) : Bool := s = "null" || s = "Null" || s = "NULL" || s = "~"

/-- The boolean that a scalar spells. -/
def boolOfText? (s : String) : Option Bool :=
  if s = "true" || s = "True" || s = "TRUE" then some true
  else if s = "false" || s = "False" || s = "FALSE" then some false
  else none

/-! ## Section 1: Whole numbers -/

/-- Digits with a needless zero in front, which are text and no number. -/
def isPaddedDigits (cs : List Char) : Bool :=
  match Decimal.dropSign ['-', '+'] cs with
  | '0' :: d :: rest => (d :: rest).all Char.isDigit
  | _ => false

/-- A number in base sixteen, eight or two with its mark. -/
def markedNumber? : List Char → Option Nat
  | '0' :: 'x' :: rest => Decimal.digitsInBase? 16 rest
  | '0' :: 'o' :: rest => Decimal.digitsInBase? 8 rest
  | '0' :: 'b' :: rest => Decimal.digitsInBase? 2 rest
  | _ => none

/-- A natural number: digits after an optional plus, in one of four bases. -/
def naturalOfText? (cs : List Char) : Option Nat :=
  let digits := Decimal.dropSign ['+'] cs
  match markedNumber? digits with
  | some n => some n
  | none => if isPaddedDigits cs then none else Decimal.digitsInBase? 10 digits

/-- A number with a minus in front, in one of four bases. -/
def negativeOfText? : List Char → Option Int
  | '-' :: digits =>
      match markedNumber? digits with
      | some n => some (-(n : Int))
      | none => if isPaddedDigits ('-' :: digits) then none
                else (Decimal.digitsInBase? 10 digits).map fun n => -(n : Int)
  | _ => none

/-- The whole number that a scalar spells, if it has at most 128 bits. -/
def intOfText? (cs : List Char) : Option Int :=
  match naturalOfText? cs with
  | some n => if n < Nat.pow 2 128 then some n else none
  | none =>
      match negativeOfText? cs with
      | some n => if n ≥ -(Nat.pow 2 127) then some n else none
      | none => none

/-! ## Section 2: Floats -/

/-- The float that a scalar spells. Beside the spellings of infinity and of no number, only finite
numbers count. -/
def floatOfText? (cs : List Char) : Option Float :=
  let unsigned := Decimal.dropSign ['+'] cs
  let s := String.ofList unsigned
  if cs.head? = some '+' && (unsigned.head? = some '+' || unsigned.head? = some '-') then none
  else if s = ".inf" || s = ".Inf" || s = ".INF" then some (1.0 / 0.0)
  else if s = "-.inf" || s = "-.Inf" || s = "-.INF" then some (-1.0 / 0.0)
  else if cs = ".nan".toList || cs = ".NaN".toList || cs = ".NAN".toList then some (0.0 / 0.0)
  else
    match Decimal.floatOfText? unsigned with
    | some x => if x.isFinite then some x else none
    | none => none

/-! ## Section 3: All together -/

/-- The meaning of a plain scalar. -/
def Plain.ofText (s : String) : Plain :=
  let cs := s.toList
  if cs.isEmpty || isNullText s then .null
  else
    match boolOfText? s with
    | some b => .bool b
    | none =>
        match intOfText? cs with
        | some n => .int n
        | none =>
            if isPaddedDigits cs then .text
            else
              match floatOfText? cs with
              | some x => .float x
              | none => .text

end Folio.Yaml
