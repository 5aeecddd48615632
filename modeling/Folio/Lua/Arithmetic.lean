import Folio.Lua.Operator
import Folio.Lua.Number

/-!
# Arithmetic

Integers wrap around. Division and powers are of doubles; the other operations are of integers if
both operands are. Division without remainder and remainders go by the greatest whole number not above
the quotient.

Main definitions:
- `Lua.arithmetic`, `Lua.bitwise`, `Lua.calculate`: operations on numbers
- `Lua.ArithFault`: why an operation on numbers fails
- `Lua.numberLess`, `Lua.numberLessEq`: exact order, also of an integer and a double
-/

namespace Folio.Lua

/-! ## Section 1: Operations on numbers -/

/-- The remainder of doubles, with the sign of the divisor. -/
def floatMod (a b : Float) : Float :=
  let r := Binary64.remainder a b
  if (r > 0.0 && b < 0.0) || (r < 0.0 && b > 0.0) then r + b else r

/-- An operation on doubles. -/
def floatArithmetic (op : ArithOp) (a b : Float) : Float :=
  match op with
  | .add => a + b
  | .sub => a - b
  | .mul => a * b
  | .div => a / b
  | .mod => floatMod a b
  | .pow => if b == 2.0 then a * a else Float.pow a b
  | _ => (a / b).floor

/-- Why an operation on numbers fails. -/
inductive ArithFault where
  | divisionByZero
  | remainderByZero
  /-- An operation on bits of a number that is no integer. -/
  | notInteger
deriving DecidableEq, Inhabited

/-- The wording of a fault. -/
def ArithFault.message : ArithFault → String
  | .divisionByZero => "attempt to perform 'n//0'"
  | .remainderByZero => "attempt to perform 'n%%0'"
  | .notInteger => "number has no integer representation"

/-- An operation on integers, but for division and powers. Division by zero fails. -/
def intArithmetic (op : ArithOp) (a b : Int64) : Except ArithFault Int64 :=
  match op with
  | .add => .ok (a + b)
  | .sub => .ok (a - b)
  | .mul => .ok (a * b)
  | .mod =>
      if b = 0 then .error .remainderByZero
      else .ok (Int64.ofInt (Int.fmod a.toInt b.toInt))
  | _ =>
      if b = 0 then .error .divisionByZero
      else .ok (Int64.ofInt (Int.fdiv a.toInt b.toInt))

/-- An operation on numbers. -/
def arithmetic (op : ArithOp) (a b : Number) : Except ArithFault Number :=
  match a, b with
  | .int m, .int n =>
      if op = .div || op = .pow then
        .ok (.float (floatArithmetic op (floatOfInt m) (floatOfInt n)))
      else (intArithmetic op m n).map .int
  | a, b => .ok (.float (floatArithmetic op a.toFloat b.toFloat))

/-- Bits moved to the left; to the right if the distance is negative. -/
def shiftLeft (a b : Int64) : Int64 :=
  let bits := a.toUInt64
  let distance := b.toInt
  if distance ≤ -64 || distance ≥ 64 then 0
  else if distance ≥ 0 then (bits <<< distance.toNat.toUInt64).toInt64
  else (bits >>> (-distance).toNat.toUInt64).toInt64

/-- An operation on bits. -/
def bitwise (op : ArithOp) (a b : Int64) : Int64 :=
  match op with
  | .bitAnd => a &&& b
  | .bitOr => a ||| b
  | .bitXor => a ^^^ b
  | .shiftLeft => shiftLeft a b
  | _ =>
      -- the distance of the least integer has no opposite, but is far enough in either direction
      if b.toInt = -(Nat.pow 2 63) then 0 else shiftLeft a (-b)

/-- An operation on numbers, also on their bits if they equal integers. -/
def calculate (op : ArithOp) (a b : Number) : Except ArithFault Number :=
  if op.isBitwise then
    match a.toInt?, b.toInt? with
    | some m, some n => .ok (.int (bitwise op m n))
    | _, _ => .error .notInteger
  else arithmetic op a b

/-! ## Section 2: Order -/

/-- Whether an integer is less than a double. -/
def intLessFloat (a : Int64) (b : Float) : Bool :=
  if b.isNaN then false
  else
    match ceilInt? b with
    | some n => a < n
    | none => b > 0.0

/-- Whether an integer is at most a double. -/
def intLessEqFloat (a : Int64) (b : Float) : Bool :=
  if b.isNaN then false
  else
    match floorInt? b with
    | some n => a ≤ n
    | none => b > 0.0

/-- Whether a number is less than another one. -/
def numberLess : Number → Number → Bool
  | .int a, .int b => a < b
  | .float a, .float b => a < b
  | .int a, .float b => intLessFloat a b
  | .float a, .int b => !a.isNaN && !intLessEqFloat b a

/-- Whether a number is at most another one. -/
def numberLessEq : Number → Number → Bool
  | .int a, .int b => a ≤ b
  | .float a, .float b => a ≤ b
  | .int a, .float b => intLessEqFloat a b
  | .float a, .int b => !a.isNaN && !intLessFloat b a

end Folio.Lua
