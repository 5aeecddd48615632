/-!
# Operators

The operators of programs. An operation on values that do not support it by themselves is an event,
for which a metatable can have a field.

Main definitions:
- `Lua.ArithOp`, `Lua.UnaryOp`, `Lua.BinaryOp`
- `Lua.BinaryOp.leftPriority`, `Lua.BinaryOp.rightPriority`: how closely operators bind
- `Lua.Event`: the events, with the names of their fields
-/

namespace Folio.Lua

/-! ## Section 1: Operators -/

/-- An operation on two numbers. The last five are on the bits of integers. -/
inductive ArithOp where
  | add | sub | mul | mod | pow | div | floorDiv
  | bitAnd | bitOr | bitXor | shiftLeft | shiftRight
deriving DecidableEq, Inhabited

/-- Whether an operation is on bits. -/
def ArithOp.isBitwise : ArithOp → Bool
  | .bitAnd | .bitOr | .bitXor | .shiftLeft | .shiftRight => true
  | _ => false

/-- An operator with one operand. -/
inductive UnaryOp where
  | minus | complement | not | length
deriving DecidableEq, Inhabited

/-- An operator with two operands. -/
inductive BinaryOp where
  | arith (op : ArithOp)
  | concat
  | eq | lt | le | ne | gt | ge
  | and | or
deriving DecidableEq, Inhabited

/-- The operator that a token is before an operand. -/
def UnaryOp.ofSign? : String → Option UnaryOp
  | "not" => some .not
  | "-" => some .minus
  | "~" => some .complement
  | "#" => some .length
  | _ => none

/-- The operator that a token is between operands. -/
def BinaryOp.ofSign? : String → Option BinaryOp
  | "+" => some (.arith .add)
  | "-" => some (.arith .sub)
  | "*" => some (.arith .mul)
  | "%" => some (.arith .mod)
  | "^" => some (.arith .pow)
  | "/" => some (.arith .div)
  | "//" => some (.arith .floorDiv)
  | "&" => some (.arith .bitAnd)
  | "|" => some (.arith .bitOr)
  | "~" => some (.arith .bitXor)
  | "<<" => some (.arith .shiftLeft)
  | ">>" => some (.arith .shiftRight)
  | ".." => some .concat
  | "~=" => some .ne
  | "==" => some .eq
  | "<" => some .lt
  | "<=" => some .le
  | ">" => some .gt
  | ">=" => some .ge
  | "and" => some .and
  | "or" => some .or
  | _ => none

/-- How closely an operator binds what stands before it, and what stands after it. -/
def BinaryOp.priorities : BinaryOp → Nat × Nat
  | .or => (1, 1)
  | .and => (2, 2)
  | .eq | .lt | .le | .ne | .gt | .ge => (3, 3)
  | .concat => (9, 8)
  | .arith op =>
      match op with
      | .bitOr => (4, 4)
      | .bitXor => (5, 5)
      | .bitAnd => (6, 6)
      | .shiftLeft | .shiftRight => (7, 7)
      | .add | .sub => (10, 10)
      | .mul | .mod | .div | .floorDiv => (11, 11)
      | .pow => (14, 13)

/-- How closely an operator binds what stands before it. -/
def BinaryOp.leftPriority (op : BinaryOp) : Nat := op.priorities.1

/-- How closely an operator binds what stands after it. -/
def BinaryOp.rightPriority (op : BinaryOp) : Nat := op.priorities.2

/-- How closely an operator with one operand binds it. -/
def unaryPriority : Nat := 12

/-! ## Section 2: Events -/

/-- An operation that a metatable can define. -/
inductive Event where
  | index | newIndex | collect | mode | length | equal
  | arith (op : ArithOp)
  | minus | complement | less | lessEqual | concat | call | close
deriving DecidableEq, Inhabited

/-- The name of an event. -/
def Event.name : Event → String
  | .index => "index"
  | .newIndex => "newindex"
  | .collect => "gc"
  | .mode => "mode"
  | .length => "len"
  | .equal => "eq"
  | .arith .add => "add"
  | .arith .sub => "sub"
  | .arith .mul => "mul"
  | .arith .mod => "mod"
  | .arith .pow => "pow"
  | .arith .div => "div"
  | .arith .floorDiv => "idiv"
  | .arith .bitAnd => "band"
  | .arith .bitOr => "bor"
  | .arith .bitXor => "bxor"
  | .arith .shiftLeft => "shl"
  | .arith .shiftRight => "shr"
  | .minus => "unm"
  | .complement => "bnot"
  | .less => "lt"
  | .lessEqual => "le"
  | .concat => "concat"
  | .call => "call"
  | .close => "close"

/-- Whether an event is an operation on bits. -/
def Event.isBitwise : Event → Bool
  | .arith op => op.isBitwise
  | .complement => true
  | _ => false

end Folio.Lua
