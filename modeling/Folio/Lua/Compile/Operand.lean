import Folio.Lua.Compile.Emit

/-!
# Expressions

An expression that was read is not compiled at once: it stays a description of where its value is, or
of the instruction that makes it, until it is known to which register the value goes.

Of `and`, `or` and comparisons, the value can come from several places: the description keeps the jumps
that leave the expression when it is true, and those when it is false.

Main definitions:
- `Lua.Expression`
- `Lua.Compile.discharge`: the value of a variable
- `Lua.Compile.toRegister`, `Lua.Compile.toNextRegister`, `Lua.Compile.toAnyRegister`
- `Lua.Compile.store`: assignment
-/

namespace Folio.Lua

/-! ## Section 1: Descriptions -/

/-- Where the value of an expression is. -/
inductive ExpressionKind where
  /-- No expression. -/
  | void
  | nil
  | bool (b : Bool)
  | constant (k : Nat)
  | int (n : Int64)
  | float (x : Float)
  | str (s : Bytes)
  /-- In a register. -/
  | register (r : Nat)
  /-- A local variable, with its place among the variables of the function. -/
  | localVariable (register place : Nat)
  | outer (place : Nat)
  /-- A variable for a known value, with its place among all variables. -/
  | known (place : Nat)
  | indexed (object key : Nat)
  | outerField (outer constant : Nat)
  | intField (object key : Nat)
  | field (object constant : Nat)
  /-- A test, which a jump at a place follows. -/
  | jump (place : Nat)
  /-- Made by an instruction at a place, which can put it into any register. -/
  | made (place : Nat)
  | call (place : Nat)
  | varargs (place : Nat)
deriving Inhabited

/-- An expression. -/
structure Expression where
  kind : ExpressionKind
  /-- Jumps that leave the expression when it is true. -/
  whenTrue : List Nat := []
  /-- Jumps that leave the expression when it is false. -/
  whenFalse : List Nat := []
deriving Inhabited

namespace Expression

/-- Whether jumps leave an expression. -/
def hasJumps (e : Expression) : Bool := !(e.whenTrue.isEmpty && e.whenFalse.isEmpty)

/-- Whether an expression can have any number of values. -/
def isMultiple (e : Expression) : Bool :=
  match e.kind with
  | .call _ | .varargs _ => true
  | _ => false

/-- Whether an expression is a field. -/
def isIndexed (e : Expression) : Bool :=
  match e.kind with
  | .indexed .. | .outerField .. | .intField .. | .field .. => true
  | _ => false

/-- Whether an expression is a variable or a field. -/
def isVariable (e : Expression) : Bool :=
  match e.kind with
  | .localVariable .. | .outer _ | .known _ => true
  | _ => e.isIndexed

/-- The number that an expression is. -/
def numeral? (e : Expression) : Option Number :=
  if e.hasJumps then none
  else
    match e.kind with
    | .int n => some (.int n)
    | .float x => some (.float x)
    | _ => none

/-- Whether an integer fits into an instruction. -/
def fitsInstruction (n : Int64) : Bool := -127 ≤ n.toInt && n.toInt ≤ 128

/-- The integer that an expression is, if it fits into an instruction. -/
def smallInt? (e : Expression) : Option Int64 :=
  match e.kind with
  | .int n => if !e.hasJumps && fitsInstruction n then some n else none
  | _ => none

/-- The number that an expression is, if it equals an integer that fits into an instruction. -/
def smallNumber? (e : Expression) : Option Val :=
  match e.numeral? with
  | some (.int n) => if fitsInstruction n then some (.int n) else none
  | some (.float x) =>
      match exactInt? x with
      | some n => if fitsInstruction n then some (.float x) else none
      | none => none
  | none => none

/-- The value that an expression is, if it is known before the program runs. -/
def literal? (e : Expression) : Option Val :=
  if e.hasJumps then none
  else
    match e.kind with
    | .nil => some .nil
    | .bool b => some (.bool b)
    | .int n => some (.int n)
    | .float x => some (.float x)
    | .str s => some (.str s)
    | _ => none

/-- The expression of a value. -/
def ofVal (v : Val) : ExpressionKind :=
  match v with
  | .bool b => .bool b
  | .int n => .int n
  | .float x => .float x
  | .str s => .str s
  | _ => .nil

end Expression

namespace Compile

/-! ## Section 2: Values of variables -/

/-- Let a call or the further arguments have as many values as asked for. -/
def setResults (e : Expression) (count : Option Nat) : Compile Unit := do
  let n := match count with
    | some n => n + 1
    | none => 0
  match e.kind with
  | .call place =>
      modifyAt place fun
        | .call f args _ => .call f args n
        | i => i
  | .varargs place =>
      let free := (← current).free
      modifyAt place fun _ => .varargs free n
      reserve 1
  | _ => pure ()

/-- An expression with one value. -/
def single (e : Expression) : Compile Expression := do
  match e.kind with
  | .call place =>
      match ← instructionAt place with
      | .call f _ _ => return { e with kind := .register f }
      | _ => return e
  | .varargs place =>
      modifyAt place fun
        | .varargs t _ => .varargs t 2
        | i => i
      return { e with kind := .made place }
  | _ => return e

/-- Give the registers back that an expression holds. -/
def freeExpression (e : Expression) : Compile Unit := do
  match e.kind with
  | .register r => free r
  | _ => pure ()

/-- Give two registers back, the higher one first. -/
def freeTwo (a b : Nat) : Compile Unit := do
  free (max a b)
  free (min a b)

/-- Give the registers back that two expressions hold. -/
def freeExpressions (a b : Expression) : Compile Unit := do
  match a.kind, b.kind with
  | .register r, .register s => freeTwo r s
  | _, _ =>
      freeExpression a
      freeExpression b

/-- An expression that is no variable any more, but its value. -/
def discharge (e : Expression) : Compile Expression := do
  match e.kind with
  | .known place => return { e with kind :=
      match ((← get).variableList[place]?).map Variable.kind with
      | some (.known v) => Expression.ofVal v
      | _ => .nil }
  | .localVariable r _ => return { e with kind := .register r }
  | .outer place => return { e with kind := .made (← emit (.getOuter 0 place)) }
  | .outerField outer k => return { e with kind := .made (← emit (.getOuterField 0 outer k)) }
  | .intField object key =>
      free object
      return { e with kind := .made (← emit (.getInt 0 object key)) }
  | .field object k =>
      free object
      return { e with kind := .made (← emit (.getField 0 object k)) }
  | .indexed object key =>
      freeTwo object key
      return { e with kind := .made (← emit (.getIndex 0 object key)) }
  | .varargs _ | .call _ => single e
  | _ => return e

/-- Whether a number can be loaded without a constant. -/
def fitsLoad (n : Int64) : Bool := -65535 ≤ n.toInt && n.toInt ≤ 65536

/-- Load an integer. -/
def loadInt (r : Nat) (n : Int64) : Compile Unit := do
  if fitsLoad n then emitOnly (.loadNumber r (.int n))
  else emitOnly (.loadConstant r (← constant (.int n)))

/-- Load a double. -/
def loadFloat (r : Nat) (x : Float) : Compile Unit := do
  match exactInt? x with
  | some n =>
      if fitsLoad n then emitOnly (.loadNumber r (.float x))
      else emitOnly (.loadConstant r (← constant (.float x)))
  | none => emitOnly (.loadConstant r (← constant (.float x)))

/-- Put the value of an expression into a register, without regard to its jumps. A test stays as it
is. -/
def dischargeTo (e : Expression) (r : Nat) : Compile Expression := do
  let e ← discharge e
  let done : Expression := { e with kind := .register r }
  match e.kind with
  | .nil =>
      emitNil r 1
      return done
  | .bool b =>
      emitOnly (.loadBool r b)
      return done
  | .str s =>
      emitOnly (.loadConstant r (← constant (.str s)))
      return done
  | .constant k =>
      emitOnly (.loadConstant r k)
      return done
  | .float x =>
      loadFloat r x
      return done
  | .int n =>
      loadInt r n
      return done
  | .made place =>
      modifyAt place (·.withTarget r)
      return done
  | .register s =>
      if r ≠ s then emitOnly (.move r s)
      return done
  | _ => return e

/-- Put the value of an expression into some register, without regard to its jumps. -/
def dischargeToAny (e : Expression) : Compile Expression := do
  match e.kind with
  | .register _ => return e
  | _ =>
      reserve 1
      dischargeTo e ((← current).free - 1)

/-! ## Section 3: Values in registers -/

/-- Put the value of an expression into a register. -/
def toRegister (e : Expression) (r : Nat) : Compile Expression := do
  let e ← dischargeTo e r
  let (e, isTest) : Expression × Bool := match e.kind with
    | .jump place => ({ e with whenTrue := e.whenTrue ++ [place] }, true)
    | _ => (e, false)
  if e.hasJumps then
    let mut loadFalse := 0
    let mut loadTrue := 0
    if (← needsValue e.whenTrue) || (← needsValue e.whenFalse) then
      let skip ← if isTest then pure [] else List.singleton <$> emitJump
      let _ ← here
      loadFalse ← emit (.loadFalseSkip r)
      let _ ← here
      loadTrue ← emit (.loadBool r true)
      patchToHere skip
    let final ← here
    patchValues e.whenFalse final (some r) loadFalse
    patchValues e.whenTrue final (some r) loadTrue
  return ⟨.register r, [], []⟩

/-- Put the value of an expression into the next free register. -/
def toNextRegister (e : Expression) : Compile Expression := do
  let e ← discharge e
  freeExpression e
  reserve 1
  toRegister e ((← current).free - 1)

/-- The register of an expression that is in one. -/
def registerOf (e : Expression) : Nat :=
  match e.kind with
  | .register r => r
  | _ => 0

/-- Put the value of an expression into some register. -/
def toAnyRegister (e : Expression) : Compile Expression := do
  let e ← discharge e
  match e.kind with
  | .register r =>
      if !e.hasJumps then return e
      else if r ≥ (← variableLevel) then toRegister e r
      else toNextRegister e
  | _ => toNextRegister e

/-- Put the value of an expression into some register, unless it is an outer variable. -/
def toAnyRegisterOrOuter (e : Expression) : Compile Expression := do
  match e.kind with
  | .outer _ => if e.hasJumps then toAnyRegister e else return e
  | _ => toAnyRegister e

/-- The value of an expression in a register, or as a constant. -/
def toValue (e : Expression) : Compile Expression := do
  let isTest := match e.kind with
    | .jump _ => true
    | _ => false
  if isTest || e.hasJumps then toAnyRegister e else discharge e

/-- The last constant that can stand in an instruction as an operand. -/
def maxOperandConstant : Nat := 255

/-- An expression as a constant that can stand in an instruction. -/
def toConstant? (e : Expression) : Compile (Option Nat) := do
  if e.hasJumps then return none
  let place? ← match e.kind with
    | .constant k => pure (some k)
    | _ =>
        match e.literal? with
        | some v => some <$> constant v
        | none => pure none
  return place?.filter (· ≤ maxOperandConstant)

/-- An expression as an operand: a constant, or else a register. -/
def toOperand (e : Expression) : Compile (Expression × Source) := do
  match ← toConstant? e with
  | some k => return ({ e with kind := .constant k }, .constant k)
  | none =>
      let e ← toAnyRegister e
      return (e, .register (registerOf e))

/-! ## Section 4: Assignment and fields -/

/-- Assign the value of an expression to a variable. -/
def store (target : Expression) (e : Expression) : Compile Unit := do
  let operand (make : Source → Instruction) : Compile Unit := do
    let (e, source) ← toOperand e
    emitOnly (make source)
    freeExpression e
  match target.kind with
  | .localVariable r _ =>
      freeExpression e
      discard (toRegister e r)
  | .outer place =>
      let e ← toAnyRegister e
      emitOnly (.setOuter (registerOf e) place)
      freeExpression e
  | .outerField outer k => operand (.setOuterField outer k)
  | .intField object key => operand (.setInt object key)
  | .field object k => operand (.setField object k)
  | .indexed object key => operand (.setIndex object key)
  | _ => freeExpression e

/-- A method of an object: the function, with the object in the register after it. -/
def methodOf (e : Expression) (name : Bytes) : Compile Expression := do
  let e ← toAnyRegister e
  let object := registerOf e
  freeExpression e
  let base := (← current).free
  reserve 2
  let (key, source) ← toOperand ⟨.str name, [], []⟩
  emitOnly (.method base object source)
  freeExpression key
  return ⟨.register base, [], []⟩

/-- The longest name for which there are instructions of its own. -/
def maxShortName : Nat := 40

/-- A field of an expression, which is in a register or an outer variable. -/
def fieldOf (e : Expression) (key : Expression) : Compile Expression := do
  let key ← match key.kind with
    | .str s => do pure { key with kind := .constant (← constant (.str s)) }
    | _ => pure key
  let constants := (← current).constants
  let name? : Option Nat := match key.kind with
    | .constant k =>
        match constants[k]? with
        | some (.str s) =>
            if !key.hasJumps && k ≤ maxOperandConstant && s.size ≤ maxShortName then some k else none
        | _ => none
    | _ => none
  let e ← match e.kind with
    | .outer _ => if name?.isNone then toAnyRegister e else pure e
    | _ => pure e
  match e.kind, name? with
  | .outer place, some k => return { e with kind := .outerField place k }
  | _, _ =>
      let object := match e.kind with
        | .localVariable r _ => r
        | _ => registerOf e
      match name? with
      | some k => return { e with kind := .field object k }
      | none =>
          let small? : Option Nat := match key.kind with
            | .int n => if !key.hasJumps && 0 ≤ n.toInt && n.toInt ≤ 255 then some n.toInt.toNat else none
            | _ => none
          match small? with
          | some n => return { e with kind := .intField object n }
          | none =>
              let key ← toAnyRegister key
              return { e with kind := .indexed object (registerOf key) }

end Compile

end Folio.Lua
