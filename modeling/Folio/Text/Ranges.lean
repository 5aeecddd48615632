/-!
# Sets of characters as ranges

A property of characters is a set of code points. It is written as a text of numbers: the lengths of
the stretches outside and inside the set, in turn.

Main definitions:
- `Text.numbersOf`, `Text.naturalsOf`: the numbers in a text
- `Text.Ranges`, `Text.Ranges.ofGaps`, `Text.Ranges.contains`
-/

namespace Folio.Text

/-! ## Section 1: Numbers in a text -/

/-- Read numbers that stand apart, given the digits read so far and their sign. -/
def readNumbers : List Char → Option (Bool × Nat) → List Int
  | [], none => []
  | [], some (negative, n) => [if negative then -(n : Int) else n]
  | c :: rest, state =>
      if c = '-' then readNumbers rest (some (true, 0))
      else if c.isDigit then
        let (negative, n) := state.getD (false, 0)
        readNumbers rest (some (negative, 10 * n + (c.toNat - '0'.toNat)))
      else
        match state with
        | none => readNumbers rest none
        | some (negative, n) => (if negative then -(n : Int) else n) :: readNumbers rest none

/-- The numbers in a text. -/
def numbersOf (s : String) : List Int := readNumbers s.toList none

/-- The natural numbers in a text. -/
def naturalsOf (s : String) : List Nat := (numbersOf s).map Int.toNat

/-! ## Section 2: Ranges -/

/-- A set of code points as disjoint ranges in ascending order, ends included. -/
structure Ranges where
  pairs : List (Nat × Nat)
deriving Inhabited

/-- The ranges that begin after `position`, from the lengths outside and inside in turn. -/
def rangesFrom (position : Nat) : List Nat → List (Nat × Nat)
  | outside :: inside :: rest =>
      (position + outside, position + outside + inside - 1)
        :: rangesFrom (position + outside + inside) rest
  | _ => []

namespace Ranges

/-- The set whose stretches outside and inside have the given lengths, from the first code point
on. -/
def ofGaps (gaps : List Nat) : Ranges := ⟨rangesFrom 0 gaps⟩

/-- Whether a code point is in the set. -/
def contains (ranges : Ranges) (n : Nat) : Bool :=
  match ranges.pairs.find? fun (_, last) => n ≤ last with
  | some (first, _) => first ≤ n
  | none => false

end Ranges

end Folio.Text
