import Folio.Lua.Arithmetic
import Folio.Lua.Compile.Operand

/-!
# Operators in expressions

An operation on known numbers is done at once, unless it could fail, or gives zero or nothing that is
a number: its text would not come out the same. Otherwise an instruction does it, and one after it
asks metatables.

Main definitions:
- `Lua.Compile.prepareTrue`, `Lua.Compile.prepareFalse`: what is left of an expression when it is true or
  false
- `Lua.Compile.unary`
- `Lua.Compile.beforeRight`, `Lua.Compile.binary`: operators with two operands
-/

namespace Folio.Lua.Compile

/-! ## Section 1: Conditions -/

/-- Turn the test before a jump round. -/
def negateTest (jump : Nat) : Compile Unit := do modifyAt (← controlOf jump) Instruction.negated

/-- Test an expression, with a jump if it is as expected. -/
def jumpIf (e : Expression) (expected : Bool) : Compile Nat := do
  let negation? : Option Nat ← match e.kind with
    | .made place =>
        match ← instructionAt place with
        | .unary .not _ source => pure (some source)
        | _ => pure none
    | _ => pure none
  match negation? with
  | some source =>
      dropLast
      emitTest (.test source !expected)
  | none =>
      let e ← dischargeToAny e
      freeExpression e
      emitTest (.testSet maxRegisters (registerOf e) expected)

/-- Go on if an expression is true, and jump otherwise. -/
def prepareTrue (e : Expression) : Compile Expression := do
  let e ← discharge e
  let jumps ← match e.kind with
    | .jump place => do
        negateTest place
        pure [place]
    | .constant _ | .int _ | .float _ | .str _ | .bool true => pure []
    | _ => List.singleton <$> jumpIf e false
  patchToHere e.whenTrue
  return { e with whenTrue := [], whenFalse := e.whenFalse ++ jumps }

/-- Go on if an expression is false, and jump otherwise. -/
def prepareFalse (e : Expression) : Compile Expression := do
  let e ← discharge e
  let jumps ← match e.kind with
    | .jump place => pure [place]
    | .nil | .bool false => pure []
    | _ => List.singleton <$> jumpIf e true
  patchToHere e.whenFalse
  return { e with whenFalse := [], whenTrue := e.whenTrue ++ jumps }

/-! ## Section 2: One operand -/

/-- The negation of an expression. -/
def negation (e : Expression) : Compile Expression := do
  let kind : ExpressionKind ← match e.kind with
    | .nil | .bool false => pure (.bool true)
    | .constant _ | .int _ | .float _ | .str _ | .bool true => pure (.bool false)
    | .jump place => do
        negateTest place
        pure e.kind
    | _ => do
        let e ← dischargeToAny e
        freeExpression e
        pure (.made (← emit (.unary .not 0 (registerOf e))))
  removeValues e.whenFalse
  removeValues e.whenTrue
  return ⟨kind, e.whenFalse, e.whenTrue⟩

/-- A number that an operation gave, as an expression, if it can stand for the operation. -/
def foldedNumber? : Number → Option ExpressionKind
  | .int n => some (.int n)
  | .float x => if x.isNaN || x == 0.0 then none else some (.float x)

/-- The value of an operation on known numbers. -/
def folded? (op : ArithOp) (a b : Expression) : Option ExpressionKind := do
  let m ← a.numeral?
  let n ← b.numeral?
  let isDivision := op = .div || op = .floorDiv || op = .mod
  if isDivision && n.toFloat == 0.0 then none
  else
    match calculate op m n with
    | .ok result => foldedNumber? result
    | .error _ => none

/-- The value of an operation on a known number. -/
def foldedUnary? (op : UnaryOp) (e : Expression) : Option ExpressionKind := do
  let n ← e.numeral?
  match op with
  | .minus => foldedNumber? n.negated
  | .complement => n.toInt?.map fun k => .int (~~~k)
  | _ => none

/-- An operator before an expression. -/
def unary (op : UnaryOp) (e : Expression) (line : Nat) : Compile Expression := do
  let e ← discharge e
  match op with
  | .not => negation e
  | _ =>
      match foldedUnary? op e with
      | some kind => return { e with kind }
      | none =>
          let e ← toAnyRegister e
          freeExpression e
          let place ← emit (.unary op 0 (registerOf e))
          setLine line
          return { e with kind := .made place }

/-! ## Section 3: Arithmetic -/

/-- What comes before the right operand of an operator is read. -/
def beforeRight (op : BinaryOp) (e : Expression) : Compile Expression := do
  let e ← discharge e
  match op with
  | .and => prepareTrue e
  | .or => prepareFalse e
  | .concat => toNextRegister e
  | .arith _ => if e.numeral?.isSome then return e else toAnyRegister e
  | .eq | .ne => if e.numeral?.isSome then return e else Prod.fst <$> toOperand e
  | .lt | .le | .gt | .ge => if e.smallNumber?.isSome then return e else toAnyRegister e

/-- An operation, and the question to metatables after it. Both take the register of the left
operand. -/
def emitOperation (a b : Expression) (line : Nat) (operation ask : Nat → Instruction) :
    Compile Expression := do
  let a ← toAnyRegister a
  let left := registerOf a
  let place ← emit (operation left)
  freeExpressions a b
  setLine line
  emitOnly (ask left)
  setLine line
  return { a with kind := .made place }

/-- An operation on two registers. -/
def inRegisters (op : ArithOp) (a b : Expression) (line : Nat) : Compile Expression := do
  let b ← toAnyRegister b
  let right := registerOf b
  emitOperation a b line (fun left => .arith op 0 left right)
    (fun left => .askMeta left right (.arith op))

/-- An operation on a register and a constant; on two registers if the operand is no constant. -/
def withConstant (op : ArithOp) (a b : Expression) (flipped : Bool) (line : Nat) :
    Compile Expression := do
  let place? ← if b.numeral?.isSome then toConstant? b else pure none
  match place? with
  | some k =>
      emitOperation a b line (fun left => .arithConstant op 0 left k)
        (fun left => .askMetaConstant left k (.arith op) flipped)
  | none => if flipped then inRegisters op b a line else inRegisters op a b line

/-- An operation on a register and an integer in the instruction. -/
def withInt (op : ArithOp) (a b : Expression) (n : Int64) (flipped : Bool) (line : Nat)
    (operation : Nat → Int → Instruction) : Compile Expression :=
  emitOperation a b line (fun left => operation left n.toInt)
    (fun left => .askMetaInt left n.toInt (.arith op) flipped)

/-- The integer that an operand is, if it and its opposite fit into an instruction. -/
def oppositeInt? (e : Expression) : Option Int64 :=
  e.smallInt?.filter fun n => Expression.fitsInstruction (-n)

/-- Whether an expression is an integer. -/
def isInteger (e : Expression) : Bool :=
  match e.kind with
  | .int _ => true
  | _ => false

/-- An operation on numbers or their bits. -/
def arithmeticOf (op : ArithOp) (a b : Expression) (line : Nat) : Compile Expression := do
  match op with
  | .add | .mul =>
      let flipped := a.numeral?.isSome
      let (a, b) := if flipped then (b, a) else (a, b)
      match if op = .add then b.smallInt? else none with
      | some n => withInt op a b n flipped line fun left n => .addInt 0 left n
      | none => withConstant op a b flipped line
  | .sub =>
      match oppositeInt? b with
      | some n => withInt op a b n false line fun left n => .addInt 0 left (-n)
      | none => withConstant op a b false line
  | .div | .floorDiv | .mod | .pow => withConstant op a b false line
  | .bitAnd | .bitOr | .bitXor =>
      let flipped := isInteger a
      let (a, b) := if flipped then (b, a) else (a, b)
      if isInteger b then withConstant op a b flipped line
      else if flipped then inRegisters op b a line
      else inRegisters op a b line
  | .shiftLeft =>
      match a.smallInt? with
      | some n => withInt op b a n true line fun left n => .shiftIntLeft 0 left n
      | none =>
          match oppositeInt? b with
          | some n => withInt op a b n false line fun left n => .shiftRightInt 0 left (-n)
          | none => inRegisters op a b line
  | .shiftRight =>
      match b.smallInt? with
      | some n => withInt op a b n false line fun left n => .shiftRightInt 0 left n
      | none => inRegisters op a b line

/-! ## Section 4: Comparisons and all operators -/

/-- A comparison by equality. -/
def equality (a b : Expression) (expected : Bool) : Compile Expression := do
  let isRegister := match a.kind with
    | .register _ => true
    | _ => false
  let (a, b) := if isRegister then (a, b) else (b, a)
  let a ← toAnyRegister a
  let left := registerOf a
  let (b, test) : Expression × Instruction ← match b.smallNumber? with
    | some v => pure (b, .equalNumber left v expected)
    | none => do
        match ← toOperand b with
        | (b, .constant k) => pure (b, .equalConstant left k expected)
        | (b, .register r) => pure (b, .equal left r expected)
  freeExpressions a b
  return { a with kind := .jump (← emitTest test) }

/-- A comparison by order. -/
def ordering (strict : Bool) (a b : Expression) : Compile Expression := do
  match b.smallNumber?, a.smallNumber? with
  | some v, _ =>
      let a ← toAnyRegister a
      freeExpressions a b
      let op : BoundOp := if strict then .less else .lessEqual
      return { a with kind := .jump (← emitTest (.orderNumber op (registerOf a) v true)) }
  | none, some v =>
      let b ← toAnyRegister b
      freeExpressions a b
      let op : BoundOp := if strict then .greater else .greaterEqual
      return { a with kind := .jump (← emitTest (.orderNumber op (registerOf b) v true)) }
  | none, none =>
      let a ← toAnyRegister a
      let b ← toAnyRegister b
      freeExpressions a b
      return { a with
        kind := .jump (← emitTest (.order strict (registerOf a) (registerOf b) true)) }

/-- Put two operands together. What the right one puts together already is put together at once. -/
def concatenation (a b : Expression) (line : Nat) : Compile Expression := do
  let b ← toNextRegister b
  let target := registerOf a
  match ← previous? with
  | some (.concat _ count) =>
      freeExpression b
      let place := (← current).code.size - 1
      modifyAt place fun _ => .concat target (count + 1)
  | _ =>
      emitOnly (.concat target 2)
      freeExpression b
      setLine line
  return a

/-- An operator between expressions. -/
def binary (op : BinaryOp) (a b : Expression) (line : Nat) : Compile Expression := do
  let b ← discharge b
  let ordinary : Compile Expression := do
    match op with
    | .and => return { b with whenFalse := a.whenFalse ++ b.whenFalse }
    | .or => return { b with whenTrue := a.whenTrue ++ b.whenTrue }
    | .concat => concatenation a b line
    | .arith op => arithmeticOf op a b line
    | .eq => equality a b true
    | .ne => equality a b false
    | .lt => ordering true a b
    | .le => ordering false a b
    | .gt => ordering true b a
    | .ge => ordering false b a
  match op with
  | .arith arithOp =>
      match folded? arithOp a b with
      | some kind => return { a with kind }
      | none => ordinary
  | _ => ordinary

end Folio.Lua.Compile
