import Folio.Lua.Library.Arguments

/-!
# The library of mathematics

Main definitions:
- `Lua.mathFunctions`, `Lua.mathConstants`
- `Lua.extreme`: the greatest or the least of some values
-/

namespace Folio.Lua

open Effect

/-! ## Section 1: Rounding and parts -/

/-- A double as an integer if it equals one that fits. -/
def floatVal (x : Float) : Val :=
  match exactInt? x with
  | some n => .int n
  | none => .float x

/-- A number rounded by a function on doubles. -/
def rounded (f : Float → Float) (c : Call) : Except CallFault (List Val) := do
  match c.arg 1 with
  | .int n => return [.int n]
  | _ => return [floatVal (f (← c.float 1))]

/-- A function on doubles. -/
def floatFunction (name : String) (f : Float → Float) : String × Native :=
  pureNative name fun c => do return [.float (f (← c.float 1))]

/-- A function on two doubles. -/
def floatFunction2 (name : String) (f : Float → Float → Float) : String × Native :=
  pureNative name fun c => do return [.float (f (← c.float 1) (← c.float 2))]

/-- The absolute value. -/
def mathAbs (c : Call) : Except CallFault (List Val) := do
  match c.arg 1 with
  | .int n => return [.int (if n < 0 then -n else n)]
  | _ => return [.float (← c.float 1).abs]

/-- The remainder of a division that rounds toward zero. -/
def mathRemainder (c : Call) : Except CallFault (List Val) := do
  match c.arg 1, c.arg 2 with
  | .int a, .int b =>
      if b = 0 then Call.bad 2 "zero"
      else return [.int (Int64.ofInt (Int.tmod a.toInt b.toInt))]
  | _, _ => return [.float (Binary64.remainder (← c.float 1) (← c.float 2))]

/-- The whole part and the fraction. -/
def mathParts (c : Call) : Except CallFault (List Val) := do
  match c.arg 1 with
  | .int n => return [.int n, .float 0.0]
  | _ =>
      let x ← c.float 1
      let whole := if x < 0.0 then x.ceil else x.floor
      return [floatVal whole, .float (if x == whole then 0.0 else x - whole)]

/-- A logarithm, of base e if none is given. -/
def mathLog (c : Call) : Except CallFault (List Val) := do
  let x ← c.float 1
  if c.lacks 2 then return [.float x.log]
  let base ← c.float 2
  if base == 2.0 then return [.float x.log2]
  else if base == 10.0 then return [.float x.log10]
  else return [.float (x.log / base.log)]

/-- A fraction and an exponent of two whose product is a number. -/
def mathFraction (c : Call) : Except CallFault (List Val) := do
  let x ← c.float 1
  if x == 0.0 || x.isNaN || x.isInf then return [.float x, .int 0]
  let (fraction, exponent) := x.frExp
  return [.float fraction, .int (Int64.ofInt exponent)]

/-- A number times a power of two. -/
def mathScaled (c : Call) : Except CallFault (List Val) := do
  return [.float ((← c.float 1).scaleB (← c.int 2).toInt)]

/-! ## Section 2: Comparisons -/

/-- The value that goes before all others by an order. -/
def extreme (better : Val → Val → (Bool → Effect) → Effect) (best : Val) :
    List Val → Effect
  | [] => finish [best]
  | v :: rest => better v best fun isBetter => extreme better (if isBetter then v else best) rest

/-- The greatest or the least of the arguments. -/
def extremeFunction (name : String) (better : Val → Val → (Bool → Effect) → Effect) :
    String × Native :=
  native name (fun c => if c.args.isEmpty then Call.bad 1 "value expected" else .ok c.args) fun args =>
    extreme better (firstOf args) (args.drop 1)

/-- Whether an integer is less than another one as numbers without sign. -/
def mathUnsignedLess (c : Call) : Except CallFault (List Val) := do
  return [.bool ((← c.int 1).toUInt64 < (← c.int 2).toUInt64)]

/-- A number or a text as an integer. -/
def mathToInteger (c : Call) : Except CallFault (List Val) := do
  match (← c.any 1).toInt? with
  | some n => return [.int n]
  | none => return [.nil]

/-- Whether a number is an integer. -/
def mathType (c : Call) : Except CallFault (List Val) := do
  match ← c.any 1 with
  | .int _ => return [.ofText "integer"]
  | .float _ => return [.ofText "float"]
  | _ => return [.nil]

/-! ## Section 3: The library -/

/-- The ratio of a circle to its diameter. -/
def circleRatio : Float := 3.141592653589793

/-- The functions of mathematics, but for random numbers. -/
def mathFunctions : List (String × Native) :=
  [pureNative "abs" mathAbs,
    pureNative "ceil" (rounded Float.ceil),
    pureNative "floor" (rounded Float.floor),
    floatFunction "sqrt" Float.sqrt,
    floatFunction "sin" Float.sin,
    floatFunction "cos" Float.cos,
    floatFunction "tan" Float.tan,
    floatFunction "asin" Float.asin,
    floatFunction "acos" Float.acos,
    floatFunction "sinh" Float.sinh,
    floatFunction "cosh" Float.cosh,
    floatFunction "tanh" Float.tanh,
    floatFunction "exp" Float.exp,
    floatFunction "log10" Float.log10,
    floatFunction "deg" (fun x => x * (180.0 / circleRatio)),
    floatFunction "rad" (fun x => x * (circleRatio / 180.0)),
    floatFunction2 "pow" Float.pow,
    pureNative "atan" fun c => do
      return [.float (Float.atan2 (← c.float 1) (← c.optional 2 1.0 c.float))],
    pureNative "log" mathLog,
    pureNative "frexp" mathFraction,
    pureNative "ldexp" mathScaled,
    pureNative "fmod" mathRemainder,
    pureNative "modf" mathParts,
    pureNative "tointeger" mathToInteger,
    pureNative "type" mathType,
    extremeFunction "max" (fun v best next => less best v next),
    extremeFunction "min" less,
    pureNative "ult" mathUnsignedLess]

/-- The constants of mathematics. -/
def mathConstants : List (String × Val) :=
  [("pi", .float circleRatio), ("huge", .float (1.0 / 0.0)),
    ("maxinteger", .int (Int64.ofInt (Nat.pow 2 63 - 1))), ("mininteger", .int (Int64.ofInt (-(Nat.pow 2 63))))]

end Folio.Lua
