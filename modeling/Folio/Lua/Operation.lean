import Folio.Lua.Action
import Folio.Lua.Arithmetic

/-!
# Operations

What operators do with numbers and strings by themselves, and what functions of the library do with
values by way of metatables. A failure in a function of the library has no place in the program.

Main definitions:
- `Lua.calculateValues?`, `Lua.orderValues?`: operations on values without metatables
- `Lua.index`, `Lua.setIndex`: fields
- `Lua.equal`, `Lua.less`, `Lua.lengthOf`: equality, order and length
- `Lua.textOf`: a value as text
-/

namespace Folio.Lua

/-! ## Section 1: Numbers and strings -/

/-- An operation on numbers; nothing if an operand is none, or if bits are asked of a number that is no
integer. -/
def calculateValues? (op : ArithOp) (a b : Val) : Option (Except ArithFault Val) :=
  if op.isBitwise then
    match a.exactInt?, b.exactInt? with
    | some m, some n => some (.ok (.int (bitwise op m n)))
    | _, _ => none
  else
    match a, b with
    | .int m, .int n =>
        match op with
        | .add => some (.ok (.int (m + n)))
        | .sub => some (.ok (.int (m - n)))
        | .mul => some (.ok (.int (m * n)))
        | _ => some ((arithmetic op (.int m) (.int n)).map Val.ofNumber)
    | .float x, .float y => some (.ok (.float (floatArithmetic op x y)))
    | _, _ =>
        match a.number?, b.number? with
        | some m, some n => some ((arithmetic op m n).map Val.ofNumber)
        | _, _ => none

/-- The order of two values that have one by themselves. -/
def orderValues? (strict : Bool) (a b : Val) : Option Bool :=
  match a, b with
  | .int m, .int n => some (if strict then m < n else m ≤ n)
  | .str s, .str t =>
      let order := Bytes.compare s t
      some (order = .lt || (!strict && order = .eq))
  | _, _ =>
      match a.number?, b.number? with
      | some m, some n => some (if strict then numberLess m n else numberLessEq m n)
      | _, _ => none

/-- The message when values cannot be compared. -/
def Memory.orderMessage (m : Memory) (a b : Val) : Bytes :=
  let first := m.typeText a
  let second := m.typeText b
  if first == second then
    Bytes.ofText "attempt to compare two " ++ first ++ Bytes.ofText " values"
  else Bytes.ofText "attempt to compare " ++ first ++ Bytes.ofText " with " ++ second

/-- The message when fields refer to each other too often. -/
def endlessMessage (event : Event) : String :=
  "'__" ++ event.name ++ "' chain too long; possibly a loop"

/-- The message when a value does not support an operation. -/
def Memory.typeMessage (m : Memory) (operation : String) (v : Val) : Bytes :=
  Bytes.ofText ("attempt to " ++ operation ++ " a ") ++ m.typeText v ++ Bytes.ofText " value"

/-! ## Section 2: Fields -/

/-- Fail because a value does not support an operation. -/
def wrongType (operation : String) (v : Val) : Effect := fun m =>
  let message := m.typeMessage operation v
  raiseHere message m

/-- Fail with a message about something else than a place or an argument. -/
def raiseText (message : String) : Effect := raiseHere (Bytes.ofText message)

/-- The value of a field. -/
def index (object key : Val) (next : Val → Effect) : Effect := fun m =>
  match m.findIndex object key with
  | .value v => next v (m.touched object key)
  | .call f object => callValue f [object, key] (fun vs => next (firstOf vs)) m
  | .noFields v _ => wrongType "index" v m
  | .endless => raiseText (endlessMessage .index) m

/-- Set a field of a table, without metatables. -/
def rawSet (id : Nat) (key value : Val) (next : Effect) : Effect :=
  match Table.keyFault? key with
  | some fault => raiseText fault.message
  | none => fun m => next (m.setField id key value)

/-- Set a field. -/
def setIndex (object key value : Val) (next : Effect) : Effect := fun m =>
  match m.findNewIndex object key with
  | .inTable id => rawSet id key value next m
  | .call f object => callValue f [object, key, value] (fun _ => next) m
  | .noFields v _ => wrongType "index" v m
  | .endless => raiseText (endlessMessage .newIndex) m

/-! ## Section 3: Equality, order, length and arithmetic -/

/-- Whether values are equal. -/
def equal (a b : Val) (next : Bool → Effect) : Effect :=
  if a.same b then next true
  else fun m =>
    match m.equalHandler a b with
    | .nil => next false m
    | f => callValue f [a, b] (fun vs => next (firstOf vs).isTrue) m

/-- Whether a value is less than another one. -/
def less (a b : Val) (next : Bool → Effect) : Effect :=
  match orderValues? true a b with
  | some result => next result
  | none => fun m =>
      match m.binaryHandler a b .less with
      | .nil =>
          let message := m.orderMessage a b
          raiseHere message m
      | f => callValue f [a, b] (fun vs => next (firstOf vs).isTrue) m

/-- The length of a value. -/
def lengthOf (v : Val) (next : Val → Effect) : Effect := fun m =>
  match v with
  | .str s => next (.ofNat s.size) m
  | v =>
      match m.handler v .length with
      | .nil =>
          match v with
          | .table id =>
              let (n, m) := m.lengthOf id
              next (.ofNat n) m
          | v => wrongType "get length of" v m
      | f => callValue f [v, v] (fun vs => next (firstOf vs)) m

/-- An arithmetic operation on numbers. -/
def arithmeticOf (op : ArithOp) (a b : Number) (next : Number → Effect) : Effect :=
  match arithmetic op a b with
  | .ok n => next n
  | .error fault => raiseText fault.message

/-! ## Section 4: Texts of values -/

/-- What identifies a thing in memory, as text. -/
def addressText (id : Nat) : String :=
  "0x" ++ String.ofList (Nat.toDigits 16 (0x55d0c0000000 + 64 * id))

/-- What identifies a value, if something does. -/
def Val.address? : Val → Option String
  | .table id => some (addressText (4 * id))
  | .function id => some (addressText (4 * id + 1))
  | .thread id => some (addressText (4 * id + 2))
  | .file id => some (addressText (4 * id + 3))
  | _ => none

/-- A value as text, without a function of its metatable. -/
def Val.plainText (m : Memory) (v : Val) : Bytes :=
  match v with
  | .nil => Bytes.ofText "nil"
  | .bool b => Bytes.ofText (if b then "true" else "false")
  | .int n => Bytes.ofText (Number.int n).text
  | .float x => Bytes.ofText (Number.float x).text
  | .str s => s
  | v => m.typeText v ++ Bytes.ofText (": " ++ v.address?.getD "(nil)")

/-- A value as text. -/
def textOf (v : Val) (next : Bytes → Effect) : Effect := fun m =>
  match m.metafield v "__tostring" with
  | .nil =>
      let text := v.plainText m
      next text m
  | f =>
      callValue f [v] (fun vs =>
        match (firstOf vs).toStr? with
        | some s => next s
        | none => raise (Bytes.ofText "'__tostring' must return a string")) m

end Folio.Lua
