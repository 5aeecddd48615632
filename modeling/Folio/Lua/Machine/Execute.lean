import Folio.Lua.Machine.Return

/-!
# Running instructions

Main definitions:
- `Lua.Machine.execute`: the next instruction
-/

namespace Folio.Lua.Machine

/-! ## Section 1: Operands -/

/-- The value of an operand. -/
def source (m : Machine) : Source → Val
  | .register r => m.reg r
  | .constant k => m.frame.constants.getD k .nil

/-- A constant. -/
@[inline] def constant (m : Machine) (k : Nat) : Val := m.frame.constants.getD k .nil

/-- Skip the next instruction. -/
def skip (m : Machine) : Machine := { m with pc := m.pc + 1 }

/-- An integer in an instruction as a value. -/
def intVal (n : Int) : Val := .int (Int64.ofInt n)

/-! ## Section 2: Calls and returns -/

/-- Call a function that is in a register. -/
def callRegister (m : Machine) (f args results : Nat) : Progress :=
  let func := m.frame.base + f
  let m := if args = 0 then m else { m with top := func + args }
  m.startCall { wanted := if results = 0 then none else some (results - 1) } func

/-- Return values that are in registers in a row. The variables of the function are closed before. -/
def returnRegisters (m : Machine) (first count : Nat) (closes : Bool) : Progress :=
  let place := m.frame.base + first
  let n := if count = 0 then m.top - place else count - 1
  if !closes then m.returnFrom place n
  else
    let level := m.frame.base
    let m := m.closeCells level
    match m.nextClosing? level with
    | none => m.returnFrom place n
    | some variablePlace =>
        let top := max (max m.frame.limit (place + n)) (if count = 0 then m.top else 0)
        m.dropClosing.closeVariable variablePlace top .nil { after := .repeating (some (place + n)) }

/-- Close the variables from a register on. -/
def closeRegisters (m : Machine) (first : Nat) : Progress :=
  let level := m.frame.base + first
  let m := m.closeCells level
  match m.nextClosing? level with
  | none => .run m
  | some place => m.dropClosing.closeVariable place m.frame.limit .nil { after := .repeating none }

/-- Make a function with the variables that it uses. -/
def makeClosure (m : Machine) (target : Nat) (p : Prototype) : Machine :=
  let (cells, m) := p.outers.foldl (fun (cells, m) (o : OuterVariable) =>
    if o.inStack then
      let (cell, m) := m.cellAt (m.frame.base + o.place)
      (cells.push cell, m)
    else (cells.push (m.frame.cells.getD o.place 0), m)) ((#[] : Array Nat), m)
  let (f, memory) := m.memory.newFunction (.closure p cells)
  { m with memory }.setReg target f

/-- Keep the further arguments of a call apart: the function and its parameters move behind them. -/
def prepareVarargs (m : Machine) (parameters : Nat) : Progress :=
  let frame := m.frame
  let func := frame.func
  let actual := m.top - func - 1
  let registers := frame.prototype.registers
  match m.checkStack (registers + 1) with
  | some progress => progress
  | none =>
      let shift := actual + 1
      let m := m.ensure (m.top + registers + 1)
      let kept := m.values func (parameters + 1)
      let m := m.putAll (func + shift) kept
      let m := m.clear (func + 1) parameters
      .run { m with
        top := func + shift + parameters + 1
        frame := { frame with
          func := func + shift, base := frame.base + shift, limit := frame.limit + shift
          extra := actual - parameters } }

/-- Put further arguments into registers in a row. -/
def loadVarargs (m : Machine) (target count : Nat) : Progress :=
  let place := m.frame.base + target
  let extra := m.frame.extra
  let first := m.frame.func - extra
  if count = 0 then
    match m.checkStack extra with
    | some progress => progress
    | none =>
        let m := m.ensure (place + extra)
        .run { m.moveDown first place extra with top := place + extra }
  else
    let wanted := count - 1
    let m := m.moveDown first place (min wanted extra)
    .run (m.clear (place + extra) (wanted - extra))

/-! ## Section 3: Loops -/

/-- Fail because a number of a loop is none. -/
def failLoop (m : Machine) (what : String) (v : Val) : Progress :=
  m.fail (Bytes.ofText ("bad 'for' " ++ what ++ " (number expected, got ") ++ m.memory.typeText v
    ++ Bytes.ofText ")")

/-- The last number of a loop over integers, cut to what an integer can be; nothing if the loop does
not run at all. -/
def loopLimit (init step : Int64) (v : Val) : Except Unit (Option Int64) :=
  match v.toNumber? with
  | none => .error ()
  | some n =>
      let rounded? : Option Int64 := match n with
        | .int k => some k
        | .float x => if step < 0 then ceilInt? x else floorInt? x
      let limit? : Option Int64 := match rounded? with
        | some k => some k
        | none =>
            if n.toFloat > 0.0 then (if step < 0 then none else some Int64.maxValue)
            else if step > 0 then none
            else some Int64.minValue
      match limit? with
      | none => .ok none
      | some limit => .ok (if step > 0 then (if init > limit then none else some limit)
          else if init < limit then none else some limit)

/-- How often a loop over integers runs after the first time. -/
def loopCount (init limit step : Int64) : UInt64 :=
  if step > 0 then (limit.toUInt64 - init.toUInt64) / step.toUInt64
  else (init.toUInt64 - limit.toUInt64) / ((-(step + 1)).toUInt64 + 1)

/-- Prepare a loop over numbers, or go past it. -/
def prepareNumeric (m : Machine) (base target : Nat) : Progress :=
  match m.reg base, m.reg (base + 2) with
  | .int init, .int step =>
      if step = 0 then m.failText "'for' step is zero"
      else
        match loopLimit init step (m.reg (base + 1)) with
        | .error () => m.failLoop "limit" (m.reg (base + 1))
        | .ok none => .run { m with pc := target + 1 }
        | .ok (some limit) =>
            let count := loopCount init limit step
            .run ((m.setReg (base + 1) (.int count.toInt64)).setReg (base + 3) (.int init))
  | init, step =>
      let limit := m.reg (base + 1)
      match limit.toNumber?, step.toNumber?, init.toNumber? with
      | none, _, _ => m.failLoop "limit" limit
      | _, none, _ => m.failLoop "step" step
      | _, _, none => m.failLoop "initial value" init
      | some limit, some step, some init =>
          let limit := limit.toFloat
          let step := step.toFloat
          let init := init.toFloat
          if step == 0.0 then m.failText "'for' step is zero"
          else if if step > 0.0 then limit < init else init < limit then .run { m with pc := target + 1 }
          else
            let m := (m.setReg base (.float init)).setReg (base + 1) (.float limit)
            .run ((m.setReg (base + 2) (.float step)).setReg (base + 3) (.float init))

/-- Run a loop over numbers once more, or leave it. -/
def stepNumeric (m : Machine) (base target : Nat) : Machine :=
  match m.reg base, m.reg (base + 1), m.reg (base + 2) with
  | .int i, .int count, .int step =>
      if count = 0 then m
      else
        let i := i + step
        let m := (m.setReg base (.int i)).setReg (base + 1) (.int (count - 1))
        { m.setReg (base + 3) (.int i) with pc := target }
  | .float i, .float limit, .float step =>
      let i := i + step
      if if step > 0.0 then i ≤ limit else limit ≤ i then
        { (m.setReg base (.float i)).setReg (base + 3) (.float i) with pc := target }
      else m
  | _, _, _ => m

/-- Call the function of a loop over what it gives. -/
def callGeneric (m : Machine) (base results : Nat) : Progress :=
  let place := m.frame.base + base + 4
  let m := m.moveDown (place - 4) place 3
  { m with top := place + 3 }.startCall { wanted := some results, isHidden := true } place

/-- Store values in items of a table. -/
def storeItems (m : Machine) (table count start : Nat) : Machine :=
  let place := m.frame.base + table
  let n := if count = 0 then m.top - place - 1 else count
  match m.reg table with
  | .table id =>
      let values := m.stack.extract (place + 1) (place + 1 + n)
      { m with memory := m.memory.modifyTable id fun t =>
          let t := t.withItems (start + n)
          { t with items := (values.foldl (fun (items, i) v => (items.setIfInBounds i v, i + 1))
              (t.items, start)).1 } }
  | _ => m

/-! ## Section 4: Instructions -/

/-- Compare a register with a number by order. -/
def compareBound (m : Machine) (op : BoundOp) (a b : Val) (expected : Bool) : Progress :=
  match op with
  | .less => m.compareOrder true a b expected
  | .lessEqual => m.compareOrder false a b expected
  | .greater => m.compareOrder true b a expected
  | .greaterEqual => m.compareOrder false b a expected

/-- Ask metatables for an operation whose right operand is a constant, unless it was the left one. -/
def askMetaFlipped (m : Machine) (event : Event) (left : Nat) (right : Val) (flipped : Bool) :
    Progress :=
  let a := m.reg left
  if flipped then m.askMeta event right a .nowhere (.register left)
  else m.askMeta event a right (.register left) .nowhere

/-- Run an instruction. -/
def run (m : Machine) (i : Instruction) : Progress :=
  match i with
  | .move t s => .run (m.setReg t (m.reg s))
  | .loadNumber t v => .run (m.setReg t v)
  | .loadConstant t k => .run (m.setReg t (m.constant k))
  | .loadBool t b => .run (m.setReg t (.bool b))
  | .loadFalseSkip t => .run (m.setReg t (.bool false)).skip
  | .loadNil t more => .run (m.clear (m.frame.base + t) (more + 1))
  | .getOuter t o => .run (m.setReg t (m.outer o))
  | .setOuter s o => .run (m.setCell (m.frame.cells.getD o 0) (m.reg s))
  | .getOuterField t o k => m.readField (m.outer o) (m.constant k) t (.outer o)
  | .getIndex t o k => m.readField (m.reg o) (m.reg k) t (.register o)
  | .getInt t o k => m.readField (m.reg o) (.ofNat k) t (.register o)
  | .getField t o k => m.readField (m.reg o) (m.constant k) t (.register o)
  | .setOuterField o k v => m.writeField (m.outer o) (m.constant k) (m.source v) (.outer o)
  | .setIndex o k v => m.writeField (m.reg o) (m.reg k) (m.source v) (.register o)
  | .setInt o k v => m.writeField (m.reg o) (.ofNat k) (m.source v) (.register o)
  | .setField o k v => m.writeField (m.reg o) (m.constant k) (m.source v) (.register o)
  | .newTable t nodes items =>
      let table : Table :=
        if nodes = 0 && items = 0 then {} else Table.resize {} items nodes
      let (v, memory) := m.memory.newTable table
      .run ({ m with memory }.setReg t v)
  | .method t o key =>
      let object := m.reg o
      let name := m.source key
      (m.setReg (t + 1) object).readField object name t (.register o)
  | .arith op t a b => m.arithmeticStep op (m.reg a) (m.reg b) t
  | .arithConstant op t a k => m.arithmeticStep op (m.reg a) (m.constant k) t
  | .addInt t a n => m.arithmeticStep .add (m.reg a) (intVal n) t
  | .shiftRightInt t a n => m.arithmeticStep .shiftRight (m.reg a) (intVal n) t
  | .shiftIntLeft t b n => m.arithmeticStep .shiftLeft (intVal n) (m.reg b) t
  | .askMeta a b event => m.askMeta event (m.reg a) (m.reg b) (.register a) (.register b)
  | .askMetaInt a n event flipped => m.askMetaFlipped event a (intVal n) flipped
  | .askMetaConstant a k event flipped => m.askMetaFlipped event a (m.constant k) flipped
  | .unary op t s => m.unary op (m.reg s) t s
  | .concat t n => { m with top := m.frame.base + t + n }.concatValues n
  | .close first => m.closeRegisters first
  | .toClose r => m.markClosing r
  | .jump target => .run { m with pc := target }
  | .equal a b k => m.compareEqual (m.reg a) (m.reg b) k
  | .equalConstant a c k => m.afterTest ((m.reg a).same (m.constant c)) k
  | .equalNumber a v k => m.afterTest ((m.reg a).same v) k
  | .order strict a b k => m.compareOrder strict (m.reg a) (m.reg b) k
  | .orderNumber op a v k => m.compareBound op (m.reg a) v k
  | .test r k => m.afterTest (m.reg r).isTrue k
  | .testSet t r k =>
      let v := m.reg r
      if v.isTrue = k then .run (m.setReg t v) else .run m.skip
  | .call f args results => m.callRegister f args results
  | .tailCall f args closes =>
      let func := m.frame.base + f
      let m := if args = 0 then m else { m with top := func + args }
      (if closes then m.closeCells m.frame.base else m).tailCall func
  | .return first count closes => m.returnRegisters first count closes
  | .return0 => m.returnFrom m.frame.base 0
  | .return1 r => m.returnFrom (m.frame.base + r) 1
  | .numericLoop base target => .run (m.stepNumeric base target)
  | .numericPrepare base target => m.prepareNumeric base target
  | .genericPrepare base target =>
      match m.markClosing (base + 3) with
      | .run m => .run { m with pc := target }
      | other => other
  | .genericCall base results => m.callGeneric base results
  | .genericLoop base target =>
      match m.reg (base + 4) with
      | .nil => .run m
      | v => .run { m.setReg (base + 2) v with pc := target }
  | .setItems table count start => .run (m.storeItems table count start)
  | .closure t p => .run (m.makeClosure t (m.frame.prototype.inner.getD p default))
  | .varargs t count => m.loadVarargs t count
  | .prepareVarargs parameters => m.prepareVarargs parameters

/-- Run the next instruction. -/
def execute (m : Machine) : Progress :=
  let i := m.frame.code.getD m.pc default
  { m with pc := m.pc + 1 }.run i

end Folio.Lua.Machine
