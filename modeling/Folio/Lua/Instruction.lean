import Folio.Lua.Operator
import Folio.Lua.Value

/-!
# Instructions

A function is compiled to instructions on registers. A register is a place in the part of the stack
that belongs to a call: first the local variables in scope, then intermediate values.

An arithmetic instruction is followed by one that asks metatables. The former skips the latter if it
succeeds.

Main definitions:
- `Lua.Instruction`
- `Lua.Prototype`: a compiled function
- `Lua.Instruction.result?`: the register that an instruction sets
-/

namespace Folio.Lua

/-! ## Section 1: Instructions -/

/-- Where an operand comes from. -/
inductive Source where
  | register (r : Nat)
  | constant (k : Nat)
deriving Inhabited, DecidableEq

/-- An order of a register and a number. -/
inductive BoundOp where
  | less | lessEqual | greater | greaterEqual
deriving Inhabited, DecidableEq

/-- An instruction. Registers, constants, outer variables and inner functions are meant by their
places, jumps by where they lead. -/
inductive Instruction where
  | move (target source : Nat)
  | loadNumber (target : Nat) (value : Val)
  | loadConstant (target constant : Nat)
  | loadBool (target : Nat) (value : Bool)
  /-- Load false and skip the next instruction. -/
  | loadFalseSkip (target : Nat)
  /-- Load `nil` into registers in a row. The second number says how many follow the first one. -/
  | loadNil (target more : Nat)
  | getOuter (target outer : Nat)
  | setOuter (source outer : Nat)
  /-- Read a field of an outer variable. -/
  | getOuterField (target outer constant : Nat)
  | getIndex (target object key : Nat)
  | getInt (target object key : Nat)
  | getField (target object constant : Nat)
  | setOuterField (outer constant : Nat) (value : Source)
  | setIndex (object key : Nat) (value : Source)
  | setInt (object key : Nat) (value : Source)
  | setField (object constant : Nat) (value : Source)
  /-- Make a table with room for items and other keys. -/
  | newTable (target nodes items : Nat)
  /-- Read a method, and put the object after it. -/
  | method (target object : Nat) (key : Source)
  | arith (op : ArithOp) (target left right : Nat)
  | arithConstant (op : ArithOp) (target left constant : Nat)
  | addInt (target left : Nat) (n : Int)
  | shiftRightInt (target left : Nat) (n : Int)
  /-- Shift an integer to the left by a register. -/
  | shiftIntLeft (target right : Nat) (n : Int)
  /-- Ask metatables for the operation before. -/
  | askMeta (left right : Nat) (event : Event)
  | askMetaInt (left : Nat) (n : Int) (event : Event) (flipped : Bool)
  | askMetaConstant (left constant : Nat) (event : Event) (flipped : Bool)
  | unary (op : UnaryOp) (target source : Nat)
  /-- Put registers in a row together. -/
  | concat (target count : Nat)
  /-- Close the variables from a register on. -/
  | close (first : Nat)
  /-- Remember that a variable is to be closed. -/
  | toClose (register : Nat)
  | jump (target : Nat)
  /-- Skip the next instruction unless a condition is as expected. -/
  | equal (left right : Nat) (expected : Bool)
  | equalConstant (left constant : Nat) (expected : Bool)
  | equalNumber (left : Nat) (value : Val) (expected : Bool)
  | order (strict : Bool) (left right : Nat) (expected : Bool)
  | orderNumber (op : BoundOp) (left : Nat) (value : Val) (expected : Bool)
  | test (register : Nat) (expected : Bool)
  /-- The same, and copy the register that is tested. -/
  | testSet (target register : Nat) (expected : Bool)
  /-- Call a function with arguments in a row after it. The numbers are one more than those of the
  arguments with the function, and of the results; zero means all up to the top of the stack. -/
  | call (function arguments results : Nat)
  | tailCall (function arguments : Nat) (closes : Bool)
  /-- Return values in a row. The number is one more than theirs; zero means all up to the top. -/
  | return (first count : Nat) (closes : Bool)
  | return0
  | return1 (register : Nat)
  | numericLoop (base target : Nat)
  | numericPrepare (base target : Nat)
  | genericPrepare (base target : Nat)
  | genericCall (base results : Nat)
  | genericLoop (base target : Nat)
  /-- Set items of a table from registers after it; zero means all up to the top. -/
  | setItems (table count start : Nat)
  | closure (target inner : Nat)
  /-- The further arguments, one less than the number; zero means all of them. -/
  | varargs (target count : Nat)
  /-- Keep the further arguments of a call apart. -/
  | prepareVarargs (parameters : Nat)
deriving Inhabited

/-- The register that an instruction sets, for instructions that set one. -/
def Instruction.result? : Instruction → Option Nat
  | .move t _ | .loadNumber t _ | .loadConstant t _ | .loadBool t _ | .loadFalseSkip t => some t
  | .loadNil t _ | .getOuter t _ | .getOuterField t _ _ | .getIndex t _ _ | .getInt t _ _ => some t
  | .getField t _ _ | .newTable t _ _ | .method t _ _ | .arith _ t _ _ => some t
  | .arithConstant _ t _ _ | .addInt t _ _ | .shiftRightInt t _ _ | .shiftIntLeft t _ _ => some t
  | .unary _ t _ | .concat t _ | .testSet t _ _ | .call t _ _ | .tailCall t _ _ => some t
  | .numericLoop t _ | .numericPrepare t _ | .genericLoop t _ => some t
  | .closure t _ | .varargs t _ => some t
  | .prepareVarargs n => some n
  | _ => none

/-- Whether an instruction asks metatables for the operation before it. -/
def Instruction.asksMeta : Instruction → Bool
  | .askMeta .. | .askMetaInt .. | .askMetaConstant .. => true
  | _ => false

/-- Whether an instruction decides on the jump after it. -/
def Instruction.isTest : Instruction → Bool
  | .equal .. | .equalConstant .. | .equalNumber .. | .order .. | .orderNumber .. => true
  | .test .. | .testSet .. => true
  | _ => false

/-- A test with its expectation turned round. -/
def Instruction.negated : Instruction → Instruction
  | .equal a b k => .equal a b !k
  | .equalConstant a b k => .equalConstant a b !k
  | .equalNumber a b k => .equalNumber a b !k
  | .order s a b k => .order s a b !k
  | .orderNumber op a b k => .orderNumber op a b !k
  | .test r k => .test r !k
  | .testSet t r k => .testSet t r !k
  | i => i

/-- An instruction with another register for its result. -/
def Instruction.withTarget (i : Instruction) (t : Nat) : Instruction :=
  match i with
  | .getOuter _ b => .getOuter t b
  | .getOuterField _ b k => .getOuterField t b k
  | .getIndex _ b c => .getIndex t b c
  | .getInt _ b c => .getInt t b c
  | .getField _ b k => .getField t b k
  | .arith op _ b c => .arith op t b c
  | .arithConstant op _ b k => .arithConstant op t b k
  | .addInt _ b n => .addInt t b n
  | .shiftRightInt _ b n => .shiftRightInt t b n
  | .shiftIntLeft _ b n => .shiftIntLeft t b n
  | .unary op _ b => .unary op t b
  | .closure _ p => .closure t p
  | .varargs _ n => .varargs t n
  | .newTable _ n m => .newTable t n m
  | i => i

/-- An instruction with another target for its jump. -/
def Instruction.withJump (i : Instruction) (target : Nat) : Instruction :=
  match i with
  | .jump _ => .jump target
  | .numericLoop b _ => .numericLoop b target
  | .numericPrepare b _ => .numericPrepare b target
  | .genericPrepare b _ => .genericPrepare b target
  | .genericLoop b _ => .genericLoop b target
  | i => i

/-! ## Section 2: Functions -/

/-- What is known of a local variable. -/
inductive VariableKind where
  | plain
  | constant
  /-- The variable is told when it goes out of scope. -/
  | closing
  /-- The variable stands for a value that is known before the program runs. -/
  | known (value : Val)
deriving Inhabited

/-- Whether a variable can be assigned to. -/
def VariableKind.isPlain : VariableKind → Bool
  | .plain => true
  | _ => false

/-- Where an outer variable of a function comes from: from a register of the function around it, or
from an outer variable of that one. -/
structure OuterVariable where
  name : String
  inStack : Bool
  place : Nat
  kind : VariableKind
deriving Inhabited

/-- The instructions in which a local variable is in scope. -/
structure LocalScope where
  name : String
  start : Nat
  stop : Nat
deriving Inhabited

/-- A compiled function. -/
structure Prototype where
  code : Array Instruction
  /-- The lines of the instructions. -/
  lines : Array Nat
  constants : Array Val
  /-- The functions inside. -/
  inner : Array Prototype
  outers : Array OuterVariable
  /-- The local variables in the order in which they come into scope. -/
  locals : Array LocalScope
  parameters : Nat
  /-- How many registers a call needs. -/
  registers : Nat
  /-- The line on which the function begins; zero for a whole program. -/
  line : Nat
  /-- Whether the function takes further arguments. -/
  isVararg : Bool
  /-- How messages name the chunk. -/
  title : Bytes
deriving Inhabited

namespace Prototype

/-- The name of the local variable that is in a register at an instruction. -/
def localName? (p : Prototype) (register place : Nat) : Option String :=
  ((p.locals.filter fun l => l.start ≤ place && place < l.stop)[register]?).map LocalScope.name

/-- The line of an instruction. -/
def lineAt (p : Prototype) (place : Nat) : Nat := p.lines.getD place 0

end Prototype

end Folio.Lua
