import Folio.Template.Expression

/-!
# Arithmetic on template data

Whole numbers have 128 bits, and an operation whose result does not fit fails. `/` always gives a
float; `//` and `%` leave a remainder that is not negative.

Main definitions:
- `Datum.add`, `Datum.sub`, `Datum.mul`, `Datum.div`, `Datum.floorDiv`, `Datum.rem`, `Datum.pow`
- `Datum.negate`, `Datum.slice`
- `Datum.binary`: the operation of an operator
-/

namespace Folio.Template.Datum

/-- The failure of an operation on operands that it does not apply to. -/
def inapplicable (operator : String) (a b : Datum) : Fault :=
  .invalid ("tried to use " ++ operator ++ " operator on unsupported types " ++ a.kind ++ " and "
    ++ b.kind)

/-- A whole number as a result, if it is in range. -/
def intResult (operator : String) (n : Int) : Except Fault Datum :=
  if inRange n then .ok (.int n) else .error (.invalid ("unable to calculate " ++ operator))

/-- The sum of numbers, or texts or lists put together. -/
def add (a b : Datum) : Except Fault Datum :=
  match a.elements?, b.elements? with
  | some xs, some ys => .ok (.series (xs ++ ys) (a.isSized && b.isSized))
  | _, _ =>
      match operands? true a b with
      | some (.ints m n) => intResult "+" (m + n)
      | some (.floats x y) => .ok (.float (x + y))
      | some (.strings s t) => .ok (.str (s ++ t) false)
      | none => .error (inapplicable "+" a b)

/-- The difference of numbers. -/
def sub (a b : Datum) : Except Fault Datum :=
  match operands? true a b with
  | some (.ints m n) => intResult "-" (m - n)
  | some (.floats x y) => .ok (.float (x - y))
  | _ => .error (inapplicable "-" a b)

/-- The longest text or list that repetition makes. -/
def maxRepeated : Nat := 10000000

/-- A text or a list repeated a number of times. -/
def repeated (d : Datum) (count : Int) : Except Fault Datum :=
  if count < 0 then .error (.invalid "can only be multiplied with integers")
  else
    let n := count.toNat
    match d with
    | .str s _ =>
        if n * s.length > maxRepeated then .error (.invalid "too long")
        else .ok (.str (String.join (List.replicate n s)) false)
    | d =>
        let items := d.elements?.getD []
        if n * items.length > maxRepeated then .error (.invalid "too long")
        else .ok (.series (List.replicate n items).flatten d.isSized)

/-- The product of numbers, or a text or list repeated. -/
def mul (a b : Datum) : Except Fault Datum :=
  let times (d count : Datum) : Except Fault Datum :=
    match count.int? with
    | some n => repeated d n
    | none => .error (inapplicable "*" a b)
  if a.string?.isSome then times a b
  else if b.string?.isSome then times b a
  else if a.elements?.isSome then times a b
  else if b.elements?.isSome then times b a
  else
    match operands? true a b with
    | some (.ints m n) => intResult "*" (m * n)
    | some (.floats x y) => .ok (.float (x * y))
    | _ => .error (inapplicable "*" a b)

/-- The quotient of numbers as a float. -/
def div (a b : Datum) : Except Fault Datum :=
  match float? true a, float? true b with
  | some x, some y => .ok (.float (x / y))
  | _, _ => .error (inapplicable "/" a b)

/-- A float without its fraction. -/
def truncated (x : Float) : Float := if x < 0.0 then x.ceil else x.floor

/-- The whole part of a quotient whose remainder is not negative. -/
def floatFloorDiv (x y : Float) : Float :=
  let q := truncated (x / y)
  if Binary64.remainder x y < 0.0 then (if y > 0.0 then q - 1.0 else q + 1.0) else q

/-- The whole quotient that leaves a remainder which is not negative. -/
def floorDiv (a b : Datum) : Except Fault Datum :=
  match operands? true a b with
  | some (.ints m n) =>
      if n = 0 then .error (.invalid "division by zero") else intResult "//" (m / n)
  | some (.floats x y) => .ok (.float (floatFloorDiv x y))
  | _ => .error (inapplicable "//" a b)

/-- The remainder of a division: not negative for whole numbers, with the sign of the dividend for
floats. -/
def rem (a b : Datum) : Except Fault Datum :=
  match operands? true a b with
  | some (.ints m n) =>
      if n = 0 then .error (.invalid "division by zero") else intResult "%" (m % n)
  | some (.floats x y) => .ok (.float (Binary64.remainder x y))
  | _ => .error (inapplicable "%" a b)

/-- A power of a whole number, if it is in range. -/
def intPow (m : Int) (n : Nat) : Except Fault Datum :=
  if m = 0 ∨ m = 1 then .ok (.int (if n = 0 then 1 else m))
  else if m = -1 then .ok (.int (if n % 2 = 0 then 1 else -1))
  else if n > 127 then .error (.invalid "unable to calculate **")
  else intResult "**" (Int.pow m n)

/-- A power of numbers. -/
def pow (a b : Datum) : Except Fault Datum :=
  match operands? true a b with
  | some (.ints m n) =>
      if n < 0 ∨ n ≥ Nat.pow 2 32 then .error (.invalid "unable to calculate **") else intPow m n.toNat
  | some (.floats x y) => .ok (.float (Float.pow x y))
  | _ => .error (inapplicable "**" a b)

/-- A number with the other sign. -/
def negate : Datum → Except Fault Datum
  | .float x => .ok (.float (-x))
  | .int n => if n = Nat.pow 2 127 then .ok (.int (-n)) else
      if inRange n then intResult "-" (-n) else .error (.invalid "cannot negate")
  | _ => .error (.invalid "cannot negate")

/-- The operation of an operator whose operands are both evaluated. -/
def binary : BinaryOp → Datum → Datum → Except Fault Datum
  | .eq, a, b => .ok (.bool (a.same b))
  | .ne, a, b => .ok (.bool !(a.same b))
  | .lt, a, b => .ok (.bool (a.compare b == .lt))
  | .le, a, b => .ok (.bool (a.compare b != .gt))
  | .gt, a, b => .ok (.bool (a.compare b == .gt))
  | .ge, a, b => .ok (.bool (a.compare b != .lt))
  | .within, a, b => (b.contains a).map .bool
  | .add, a, b => add a b
  | .sub, a, b => sub a b
  | .concat, a, b => .ok (.ofString (a.text ++ b.text))
  | .mul, a, b => mul a b
  | .div, a, b => div a b
  | .floorDiv, a, b => floorDiv a b
  | .rem, a, b => rem a b
  | .pow, a, b => pow a b
  | .or, a, b => .ok (if a.isTrue then a else b)
  | .and, a, b => .ok (if a.isTrue then b else a)

/-! ## Slices -/

/-- Every item at a distance of `step` from the first. -/
def everyNth {α : Type} (step : Nat) : Nat → List α → List α
  | _, [] => []
  | 0, x :: rest => x :: everyNth step (step - 1) rest
  | n + 1, _ :: rest => everyNth step n rest

/-- A bound counted from the start: a negative one counts from the end, but not beyond the start. -/
def fromStart (length : Nat) (n : Int) : Nat := (if n < 0 then length + n else n).toNat

/-- The items from `start` up to `stop` at distances of `step`. -/
def sliceForward {α : Type} (items : List α) (start : Int) (stop : Option Int) (step : Nat) :
    List α :=
  let first := fromStart items.length start
  let last := match stop with
    | none => items.length
    | some n => fromStart items.length n
  everyNth step 0 ((items.drop first).take (last - first))

/-- The items from `start` back at distances of `step`: to the first item if `stop` is at the start,
otherwise to before `stop`. -/
def sliceBackward {α : Type} (items : List α) (start stop : Option Int) (step : Nat) : List α :=
  let first := match start with
    | none => items.length - 1
    | some n => min (fromStart items.length n) (items.length - 1)
  let last := match stop with
    | none => 0
    | some n => fromStart items.length n
  everyNth step 0 ((items.drop (if last = 0 then 0 else last + 1)).take
    (if last = 0 then first + 1 else first - last)).reverse

/-- The part of a sequence that start, stop and step pick. -/
def pick {α : Type} (items : List α) (start stop : Option Int) (step : Int) : List α :=
  if step > 0 then sliceForward items (start.getD 0) stop step.toNat
  else sliceBackward items start stop step.natAbs

/-- A bound of a slice. -/
def bound (d : Datum) : Except Fault (Option Int) :=
  match d with
  | .nothing => .ok none
  | d =>
      match d.int? with
      | some n => .ok (some n)
      | none => .error (.invalid "slice bounds must be integers")

/-- A part of a text or a list. -/
def slice (d start stop step : Datum) : Except Fault Datum := do
  let start ← bound start
  let stop ← bound stop
  let step := (← bound step).getD 1
  if step = 0 then throw (.invalid "cannot slice by step size of 0")
  match d with
  | .undefined | .nothing => return .list []
  | .str s _ => return .ofString (String.ofList (pick s.toList start stop step))
  | d =>
      match d.elements? with
      | some items => return .series (pick items start stop step) d.isSized
      | none => throw (.invalid ("value of type " ++ d.kind ++ " cannot be sliced"))

end Folio.Template.Datum
