import Folio.Lua.Instruction
import Folio.Lua.Token
import Std.Data.TreeMap

/-!
# Scopes

What is known of a program while it is compiled: the functions that are being compiled, the innermost
one first, their blocks and the variables in scope, and the text that is left.

Main definitions:
- `Lua.FunctionState`, `Lua.Builder`, `Lua.Compile`
- `Lua.Compile.next`, `Lua.Compile.fail`: tokens
- `Lua.Compile.declare`, `Lua.Compile.activate`, `Lua.Compile.deactivate`: local variables
-/

namespace Folio.Lua

/-! ## Section 1: States -/

/-- A local variable. -/
structure Variable where
  name : String
  kind : VariableKind := .plain
  register : Nat := 0
  /-- The place of its scope among those of the function. A variable for a known value has none. -/
  scope : Option Nat := none
deriving Inhabited

/-- A label. -/
structure Label where
  name : String
  place : Nat
  line : Nat
  /-- How many variables are in scope. -/
  variableCount : Nat
deriving Inhabited

/-- Jumps to a label that was not found yet. -/
structure PendingJump where
  name : String
  jumps : List Nat
  line : Nat
  variableCount : Nat
  /-- Whether the jump leaves the scope of a variable that a function inside uses. -/
  closes : Bool := false
deriving Inhabited

/-- A block. -/
structure Block where
  isLoop : Bool
  /-- How many variables are in scope before the block. -/
  variableCount : Nat
  firstLabel : Nat
  firstPending : Nat
  /-- Whether a function inside uses a variable of the block, or one is to be closed. -/
  isCaptured : Bool := false
  /-- Whether the block is in the scope of a variable that is to be closed. -/
  insideClosing : Bool
deriving Inhabited

/-- What tells constants apart. -/
inductive ConstantKey where
  | str (s : Bytes)
  | int (n : Int64)
  | bits (n : UInt64)
  | nil
  | bool (b : Bool)

/-- Constants by kind, and those of one kind by value. -/
def ConstantKey.compare : ConstantKey → ConstantKey → Ordering
  | .str a, .str b => Bytes.compare a b
  | .int a, .int b => Ord.compare a.toInt b.toInt
  | .bits a, .bits b => Ord.compare a.toNat b.toNat
  | .bool a, .bool b => Ord.compare a b
  | a, b => Ord.compare a.ctorIdx b.ctorIdx

/-- A function that is being compiled. -/
structure FunctionState where
  line : Nat
  code : Array Instruction := #[]
  lines : Array Nat := #[]
  constants : Array Val := #[]
  constantPlaces : Std.TreeMap ConstantKey Nat ConstantKey.compare := {}
  inner : Array Prototype := #[]
  outers : Array OuterVariable := #[]
  locals : Array LocalScope := #[]
  blocks : List Block := []
  /-- The last instruction to which a jump leads. -/
  lastTarget : Nat := 0
  /-- Where the variables of the function begin among all variables. -/
  firstVariable : Nat
  firstLabel : Nat
  /-- How many variables are in scope. -/
  active : Nat := 0
  /-- The first register that is free. -/
  free : Nat := 0
  registers : Nat := 2
  needsClose : Bool := false
  parameters : Nat := 0
  isVararg : Bool := false
deriving Inhabited

/-- The state of compilation. -/
structure Builder where
  scanner : Scanner
  token : Token := .ending
  /-- The token after it, if that was read already. -/
  ahead : Option Token := none
  /-- The line of the token before. -/
  lastLine : Nat := 1
  current : FunctionState
  /-- The functions around the current one. -/
  around : List FunctionState := []
  /-- The variables. Those behind the count went out of scope. -/
  variableList : Array Variable := #[]
  variableCount : Nat := 0
  labels : Array Label := #[]
  pending : Array PendingJump := #[]
  /-- How messages name the chunk. -/
  title : Bytes
deriving Inhabited

/-- A step of compilation. -/
abbrev Compile (α : Type) := StateT Builder (Except SyntaxError) α

namespace Compile

/-! ## Section 2: Tokens -/

/-- Do a step of reading. -/
def reading {α : Type} (step : Scan α) : Compile α := do
  let b ← get
  let (a, scanner) ← step.run b.scanner
  set { b with scanner }
  return a

/-- Go on to the next token. -/
def next : Compile Unit := do
  modify fun b => { b with lastLine := b.scanner.line }
  match (← get).ahead with
  | some token => modify fun b => { b with token, ahead := none }
  | none =>
      let token ← reading scan
      modify fun b => { b with token }

/-- The token after the current one. -/
def lookAhead : Compile Token := do
  match (← get).ahead with
  | some token => return token
  | none =>
      let token ← reading scan
      modify fun b => { b with ahead := some token }
      return token

/-- Fail at the current token. -/
def fail {α : Type} (fault : SyntaxFault) : Compile α := do
  let b ← get
  throw ⟨fault, b.scanner.line, some (b.token.shown b.scanner.text)⟩

/-- Fail because of the meaning of the program, whatever the current token is. -/
def failMeaning {α : Type} (fault : SyntaxFault) : Compile α := do
  throw ⟨fault, (← get).scanner.line, none⟩

/-- The current line. -/
def line : Compile Nat := do return (← get).scanner.line

/-- Whether the current token is a sign. -/
def sees (s : String) : Compile Bool := do return (← get).token.isSign s

/-- Go past a sign if it is the current token. -/
def accept (s : String) : Compile Bool := do
  if ← sees s then
    next
    return true
  return false

/-- A sign in a message. -/
def signText (s : String) : String := "'" ++ s ++ "'"

/-- Require a sign and go past it. -/
def expect (s : String) : Compile Unit := do
  if !(← accept s) then fail (.expected (signText s))

/-- Require the sign that ends what another one began. -/
def expectClosing (s opener : String) (openLine : Nat) : Compile Unit := do
  if !(← accept s) then
    if openLine = (← line) then fail (.expected (signText s))
    else fail (.unclosed (signText s) (signText opener) openLine)

/-- Require a name and go past it. -/
def expectName : Compile String := do
  match (← get).token with
  | .name s =>
      next
      return s
  | _ => fail (.expected "<name>")

/-- Whether the current token ends a block. -/
def seesBlockEnd (withUntil : Bool) : Compile Bool := do
  match (← get).token with
  | .ending => return true
  | .sign s => return s = "else" || s = "elseif" || s = "end" || (withUntil && s = "until")
  | _ => return false

/-! ## Section 3: Functions -/

/-- The function that is being compiled. -/
def current : Compile FunctionState := do return (← get).current

/-- Change the function that is being compiled. -/
def modifyCurrent (f : FunctionState → FunctionState) : Compile Unit :=
  modify fun b => { b with current := f b.current }

/-- Fail because the function has too many things of a kind. -/
def failTooMany {α : Type} (what : String) (limit : Nat) : Compile α := do
  fail (.tooMany what limit (← current).line)

end Compile

/-! ## Section 4: Variables -/

/-- How many variables a function can have in scope. -/
def maxVariables : Nat := 200

/-- A variable of a function. -/
def Builder.variableOf (b : Builder) (f : FunctionState) (i : Nat) : Variable :=
  (b.variableList[f.firstVariable + i]?).getD default

/-- The first register behind a number of variables of a function. -/
def Builder.registerLevel (b : Builder) (f : FunctionState) : Nat → Nat
  | 0 => 0
  | n + 1 =>
      let v := b.variableOf f n
      match v.kind with
      | .known _ => registerLevel b f n
      | _ => v.register + 1

/-- Change a variable of the current function. -/
def Builder.modifyVariable (b : Builder) (i : Nat) (f : Variable → Variable) : Builder :=
  { b with variableList := b.variableList.modify (b.current.firstVariable + i) f }

namespace Compile

/-- The first register behind a number of variables. -/
def registerLevel (count : Nat) : Compile Nat := do
  let b ← get
  return b.registerLevel b.current count

/-- The first register behind all variables in scope. -/
def variableLevel : Compile Nat := do registerLevel (← current).active

/-- A new variable, which is not in scope yet; its place among those of the function. -/
def declare (name : String) : Compile Nat := do
  let b ← get
  let place := b.variableCount - b.current.firstVariable
  if place + 1 > maxVariables then failTooMany "local variables" maxVariables
  let fresh : Variable := { name }
  modify fun b =>
    let list := b.variableList
    let n := b.variableCount
    { b with
      variableList := if n < list.size then list.setIfInBounds n fresh else list.push fresh
      variableCount := n + 1 }
  return place

/-- Bring the next variable into scope, in a register. -/
def activateNext (register : Nat) : Compile Unit := modify fun b =>
  let f := b.current
  let name := (b.variableOf f f.active).name
  let scope := f.locals.size
  let b := b.modifyVariable f.active fun v => { v with register, scope := some scope }
  { b with current :=
      { b.current with
        active := f.active + 1
        locals := b.current.locals.push ⟨name, f.code.size, f.code.size⟩ } }

/-- Bring variables into scope, in registers in a row. -/
def activateFrom : Nat → Nat → Compile Unit
  | _, 0 => pure ()
  | register, count + 1 => do
      activateNext register
      activateFrom (register + 1) count

/-- Bring a number of variables into scope. -/
def activate (count : Nat) : Compile Unit := do activateFrom (← variableLevel) count

/-- Change the scope of a variable. -/
def modifyScope (i : Nat) (change : LocalScope → LocalScope) : Compile Unit := modify fun b =>
  match (b.variableOf b.current i).scope with
  | none => b
  | some place => { b with current := { b.current with locals := b.current.locals.modify place change } }

/-- Take variables out of scope, so that so many remain. The count of them bounds the steps. -/
def deactivateSteps (count : Nat) : Nat → Compile Unit
  | 0 => pure ()
  | fuel + 1 => do
      let f ← current
      if f.active > count then
        modifyCurrent fun f => { f with active := f.active - 1 }
        modifyScope (f.active - 1) fun s => { s with stop := f.code.size }
        deactivateSteps count fuel

/-- Take variables out of scope, so that so many remain. -/
def deactivate (count : Nat) : Compile Unit := do
  let active := (← current).active
  modify fun b => { b with variableCount := b.variableCount - (active - count) }
  deactivateSteps count active

end Compile

end Folio.Lua
