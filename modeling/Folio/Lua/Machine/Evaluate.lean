import Folio.Lua.Machine.Call
import Folio.Lua.Operation

/-!
# Operations of instructions

What instructions do with values: fields, arithmetic, comparison and concatenation. Where a metatable
decides, a call begins, and its result finishes the instruction later.

Main definitions:
- `Lua.Machine.readField`, `Lua.Machine.writeField`
- `Lua.Machine.askMeta`, `Lua.Machine.unary`, `Lua.Machine.concatValues`
- `Lua.Machine.compareEqual`, `Lua.Machine.compareOrder`
- `Lua.Machine.finishOperation`: the rest of an instruction after a call
-/

namespace Folio.Lua

open Machine (Spot)

namespace Machine

/-! ## Section 1: Fields -/

/-- Read a field into a register, by way of metatables if need be. -/
def readFieldFully (m : Machine) (object key : Val) (target : Nat) (spot : Spot) : Progress :=
  let m := { m with memory := m.memory.touched object key }
  match m.memory.findIndex object key with
  | .value v => .run (m.setReg target v)
  | .call f object => m.callHandler f [object, key] 1 false
  | .noFields v isFirst => m.failSpot "index" v (if isFirst then spot else .nowhere)
  | .endless => m.failText (endlessMessage .index)

/-- The value of a field that a table has by itself, if the table does not change by that. -/
def ownField (m : Machine) (object key : Val) : Val :=
  match object with
  | .table id =>
      let t := m.memory.table id
      if t.hint < t.items.size then .nil else t.get key
  | _ => .nil

/-- Read a field into a register. -/
def readField (m : Machine) (object key : Val) (target : Nat) (spot : Spot) : Progress :=
  match m.ownField object key with
  | .nil => m.readFieldFully object key target spot
  | v => .run (m.setReg target v)

/-- Set a field. -/
def writeField (m : Machine) (object key value : Val) (spot : Spot) : Progress :=
  match m.memory.findNewIndex object key with
  | .inTable id =>
      match Table.keyFault? key with
      | some fault => m.failText fault.message
      | none => .run { m with memory := m.memory.setField id key value }
  | .call f object => m.callHandler f [object, key, value] 0 false
  | .noFields v isFirst => m.failSpot "index" v (if isFirst then spot else .nowhere)
  | .endless => m.failText (endlessMessage .newIndex)

/-! ## Section 2: Arithmetic -/

/-- Put the result of an operation on numbers into a register and skip the question to metatables. An
operation on other values leaves it to that. -/
def arithmeticStep (m : Machine) (op : ArithOp) (a b : Val) (target : Nat) : Progress :=
  match calculateValues? op a b with
  | some (.ok v) => .run { m.setReg target v with pc := m.pc + 1 }
  | some (.error fault) => m.failText fault.message
  | none => .run m

/-- Fail because operands do not support an operation. -/
def failOperands (m : Machine) (event : Event) (a b : Val) (spotA spotB : Spot) : Progress :=
  if event.isBitwise && a.number?.isSome && b.number?.isSome then
    let culprit := if a.exactInt?.isSome then spotB else spotA
    m.fail (Bytes.ofText "number" ++ m.spotText culprit
      ++ Bytes.ofText " has no integer representation")
  else
    let operation :=
      if event.isBitwise then "perform bitwise operation on" else "perform arithmetic on"
    let (v, spot) := if a.number?.isSome then (b, spotB) else (a, spotA)
    m.failSpot operation v spot

/-- Ask the metatables of two operands for an operation. -/
def askMeta (m : Machine) (event : Event) (a b : Val) (spotA spotB : Spot) : Progress :=
  match m.memory.binaryHandler a b event with
  | .nil => m.failOperands event a b spotA spotB
  | f => m.callHandler f [a, b] 1 false

/-- An operation on one operand. -/
def unary (m : Machine) (op : UnaryOp) (v : Val) (target source : Nat) : Progress :=
  let spot := Spot.register source
  match op, v with
  | .not, v => .run (m.setReg target (.bool !v.isTrue))
  | .minus, .int n => .run (m.setReg target (.int (-n)))
  | .minus, .float x => .run (m.setReg target (.float (-x)))
  | .minus, v => m.askMeta .minus v v spot spot
  | .complement, v =>
      match v.exactInt? with
      | some n => .run (m.setReg target (.int (~~~n)))
      | none => m.askMeta .complement v v spot spot
  | .length, .str s => .run (m.setReg target (.ofNat s.size))
  | .length, v =>
      match m.memory.handler v .length with
      | .nil =>
          match v with
          | .table id =>
              let (n, memory) := m.memory.lengthOf id
              .run ({ m with memory }.setReg target (.ofNat n))
          | v => m.failSpot "get length of" v spot
      | f => m.callHandler f [v, v] 1 false

/-! ## Section 3: Comparison -/

/-- Go on after a comparison: the next instruction is a jump, which is skipped unless the result is as
expected. -/
def afterTest (m : Machine) (result expected : Bool) : Progress :=
  if result = expected then .run m else .run { m with pc := m.pc + 1 }

/-- Compare values by equality. -/
def compareEqual (m : Machine) (a b : Val) (expected : Bool) : Progress :=
  if a.same b then m.afterTest true expected
  else
    match m.memory.equalHandler a b with
    | .nil => m.afterTest false expected
    | f => m.callHandler f [a, b] 1 false

/-- Compare values by order. What metatables do not say of `a ≤ b` is the opposite of `b < a`. -/
def compareOrder (m : Machine) (strict : Bool) (a b : Val) (expected : Bool) : Progress :=
  match orderValues? strict a b with
  | some result => m.afterTest result expected
  | none =>
      match m.memory.binaryHandler a b (if strict then .less else .lessEqual) with
      | .nil =>
          match if strict then .nil else m.memory.binaryHandler b a .less with
          | .nil => m.fail (m.memory.orderMessage a b)
          | f => m.callHandler f [b, a] 1 true
      | f => m.callHandler f [a, b] 1 false

/-! ## Section 4: Concatenation -/

/-- The texts at the top of some values, as many as there are in a row, put together; and their
number. -/
def gatherTexts (m : Machine) : Nat → Nat → Bytes → Nat → Bytes × Nat
  | 0, _, acc, count => (acc, count)
  | left + 1, place, acc, count =>
      match (m.stackAt place).toStr? with
      | some s => gatherTexts m left (place - 1) (s ++ acc) (count + 1)
      | none => (acc, count)

/-- Put values at the top of the stack together. Each step makes them fewer. -/
def concatSteps : Nat → Nat → Machine → Progress
  | 0, _, m => .run m
  | fuel + 1, total, m =>
      if total ≤ 1 then .run m
      else
        let top := m.top
        let a := m.stackAt (top - 2)
        let b := m.stackAt (top - 1)
        match a.toStr?, b.toStr? with
        | some _, some t =>
            let (text, count) := m.gatherTexts (total - 1) (top - 2) t 1
            let m := { m with memory := m.memory.use text.size }
            let m := { m.put (top - count) (.str text) with top := top - (count - 1) }
            concatSteps fuel (total - (count - 1)) m
        | first, _ =>
            match m.memory.binaryHandler a b .concat with
            | .nil =>
                let register (place : Nat) : Spot := .register (place - m.frame.base)
                if first.isSome then m.failSpot "concatenate" b (register (top - 1))
                else m.failSpot "concatenate" a (register (top - 2))
            | f => m.pushCall { wanted := some 1, after := .operation false, isHidden := true } top f [a, b]

/-- Put a number of values at the top of the stack together. -/
def concatValues (m : Machine) (total : Nat) : Progress := concatSteps (total + 1) total m

/-! ## Section 5: After a call -/

/-- Finish an instruction with the result of a call that stood at a place. -/
def finishOperation (m : Machine) (opposite : Bool) (func : Nat) (result : Val) : Progress :=
  let i := m.frame.code.getD m.currentPlace default
  let test (expected : Bool) : Progress := m.afterTest (result.isTrue != opposite) expected
  match i with
  | .equal _ _ k | .order _ _ _ k | .orderNumber _ _ _ k => test k
  | .askMeta .. | .askMetaInt .. | .askMetaConstant .. =>
      match (m.frame.code.getD (m.currentPlace - 1) default).result? with
      | some target => .run (m.setReg target result)
      | none => .run m
  | .concat target _ =>
      let top := func
      let total := top - 1 - (m.frame.base + target)
      { m.put (top - 2) result with top := top - 1 }.concatValues total
  | .getOuterField .. | .getIndex .. | .getInt .. | .getField .. | .method .. | .unary .. =>
      match i.result? with
      | some target => .run (m.setReg target result)
      | none => .run m
  | _ => .run m

end Machine

end Folio.Lua
