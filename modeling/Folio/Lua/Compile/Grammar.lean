import Folio.Lua.Compile.Block
import Folio.Lua.Compile.Operation
import Folio.Lua.Table

/-!
# Grammar

Programs are compiled while they are read. Statements and expressions inside others are limited in
depth, so a reader is given the readers for what is one step deeper.

Main definitions:
- `Lua.Compile.Readers`: what reads expressions and statements
- `Lua.compile`: a program from its text
-/

namespace Folio.Lua.Compile

/-! ## Section 1: Readers -/

/-- What reads the expressions and statements inside others. -/
structure Readers where
  /-- An expression whose operators bind more closely than a limit, and the operator after it. -/
  operand (limit : Nat) : Compile (Expression × Option BinaryOp)
  /-- A statement. -/
  statement : Compile Unit

/-- Fail because the text nests too deeply. -/
def failDeep {α : Type} : Compile α := failMeaning .tooDeep

/-- The readers that allow nothing. -/
def Readers.none : Readers := ⟨fun _ => failDeep, failDeep⟩

/-- Do something again as long as it says so. The size of the text bounds the repetitions. -/
def again (step : Compile Bool) : Nat → Compile Unit
  | 0 => pure ()
  | fuel + 1 => do if ← step then again step fuel

/-- How often something that goes past a token can be done. -/
def tokensLeft : Compile Nat := do return (← get).scanner.size + 4

/-- Do something again as long as it says so. -/
def repeating (step : Compile Bool) : Compile Unit := do again step (← tokensLeft)

/-- An expression. -/
def expression (r : Readers) : Compile Expression := do return (← r.operand 0).1

/-- Expressions between commas, without the last one; and the last one with their number. -/
def expressionsFrom (r : Readers) : Nat → Expression → Nat → Compile (Expression × Nat)
  | 0, e, count => return (e, count)
  | fuel + 1, e, count => do
      if ← accept "," then
        discard (toNextRegister e)
        expressionsFrom r fuel (← expression r) (count + 1)
      else return (e, count)

/-- Expressions between commas. All but the last one go to registers; the last one and their number. -/
def expressions (r : Readers) : Compile (Expression × Nat) := do
  expressionsFrom r (← tokensLeft) (← expression r) 1

/-- An expression in the next register. -/
def expressionInRegister (r : Readers) : Compile Unit := do
  discard (toNextRegister (← expression r))

/-- Statements up to the end of a block. A return must be the last one. -/
def statements (r : Readers) : Compile Unit := repeating do
  if ← seesBlockEnd true then return false
  let isLast ← sees "return"
  r.statement
  return !isLast

/-- A block. -/
def readBlock (r : Readers) : Compile Unit := do
  enterBlock false
  statements r
  leaveBlock

/-! ## Section 2: Functions -/

/-- Parameters between commas: their number, and whether further arguments come after them. -/
def parameterNames : Nat → Nat → Compile (Nat × Bool)
  | 0, count => return (count, false)
  | fuel + 1, count => do
      match (← get).token with
      | .name s =>
          next
          discard (declare s)
          if ← accept "," then parameterNames fuel (count + 1) else return (count + 1, false)
      | .sign "..." =>
          next
          return (count, true)
      | _ => fail .parameterExpected

/-- The parameters of a function. -/
def parameters : Compile Unit := do
  let (count, isVararg) ← if ← sees ")" then pure (0, false)
    else do parameterNames (← tokensLeft) 0
  activate count
  let active := (← current).active
  modifyCurrent fun f => { f with parameters := active }
  if isVararg then setVararg active
  reserve active

/-- A function from its parameters on. -/
def functionBody (r : Readers) (isMethod : Bool) (line : Nat) : Compile Expression := do
  openFunction line
  expect "("
  if isMethod then
    discard (declare "self")
    activate 1
  parameters
  expect ")"
  statements r
  expectClosing "end" "function" line
  let p ← closeFunction
  modifyCurrent fun f => { f with inner := f.inner.push p }
  let place ← emit (.closure 0 ((← current).inner.size - 1))
  toNextRegister ⟨.made place, [], []⟩

/-! ## Section 3: Tables -/

/-- A table that is being made. -/
structure TableState where
  table : Nat
  /-- The last item, which is not in a register yet. -/
  last : Option Expression := .none
  /-- How many items were stored. -/
  stored : Nat := 0
  /-- How many items are in registers, with the last one. -/
  waiting : Nat := 0
  /-- How many other keys there are. -/
  keyed : Nat := 0

/-- How many items are stored at once. -/
def itemsAtOnce : Nat := 50

/-- An index in brackets. -/
def bracketed (r : Readers) : Compile Expression := do
  next
  let key ← toValue (← expression r)
  expect "]"
  return key

/-- Store items. -/
def storeItems (table start : Nat) (count : Option Nat) : Compile Unit := do
  emitOnly (.setItems table (count.getD 0) start)
  modifyCurrent fun f => { f with free := table + 1 }

/-- Put the last item into a register. -/
def closeItem (t : TableState) : Compile TableState := do
  match t.last with
  | .none => return t
  | some e =>
      discard (toNextRegister e)
      let t := { t with last := .none }
      if t.waiting = itemsAtOnce then
        storeItems t.table t.stored (some t.waiting)
        return { t with stored := t.stored + t.waiting, waiting := 0 }
      return t

/-- Store the items that are left. -/
def closeItems (t : TableState) : Compile TableState := do
  if t.waiting = 0 then return t
  match t.last with
  | some e =>
      if e.isMultiple then
        setResults e .none
        storeItems t.table t.stored .none
        return { t with stored := t.stored + t.waiting - 1 }
      discard (toNextRegister e)
  | .none => pure ()
  storeItems t.table t.stored (some t.waiting)
  return { t with stored := t.stored + t.waiting }

/-- A field with a key. -/
def keyedField (r : Readers) (t : TableState) : Compile TableState := do
  let free := (← current).free
  let key ← match (← get).token with
    | .name s => do
        next
        pure ⟨.str (Bytes.ofText s), [], []⟩
    | _ => bracketed r
  expect "="
  let target ← fieldOf ⟨.register t.table, [], []⟩ key
  store target (← expression r)
  modifyCurrent fun f => { f with free }
  return { t with keyed := t.keyed + 1 }

/-- An item. -/
def itemField (r : Readers) (t : TableState) : Compile TableState := do
  let e ← expression r
  return { t with last := some e, waiting := t.waiting + 1 }

/-- A field of a table. -/
def tableField (r : Readers) (t : TableState) : Compile TableState := do
  match (← get).token with
  | .name _ =>
      if (← lookAhead).isSign "=" then keyedField r t else itemField r t
  | .sign "[" => keyedField r t
  | _ => itemField r t

/-- The fields of a table. -/
def tableFields (r : Readers) : Nat → TableState → Compile TableState
  | 0, t => return t
  | fuel + 1, t => do
      if ← sees "\x7d" then return t
      let t ← tableField r (← closeItem t)
      if (← accept ",") || (← accept ";") then tableFields r fuel t else return t

/-- A table. -/
def tableConstructor (r : Readers) : Compile Expression := do
  let line ← line
  let place ← emit (.newTable 0 0 0)
  let table := (← current).free
  modifyAt place (·.withTarget table)
  reserve 1
  expect "\x7b"
  let t ← tableFields r (← tokensLeft) { table }
  expectClosing "\x7d" "\x7b" line
  let t ← closeItems t
  let nodes := if t.keyed = 0 then 0 else Nat.pow 2 (ceilLog2 t.keyed)
  modifyAt place fun _ => .newTable table nodes t.stored
  return ⟨.register table, [], []⟩

/-! ## Section 4: Calls and fields -/

/-- The arguments of a call of a function that is in a register. -/
def callArguments (r : Readers) (f : Expression) : Compile Expression := do
  let line ← line
  let args : Option Expression ← match (← get).token with
    | .sign "(" => do
        next
        if ← sees ")" then
          expectClosing ")" "(" line
          pure .none
        else do
          let (e, _) ← expressions r
          if e.isMultiple then setResults e .none
          expectClosing ")" "(" line
          pure (some e)
    | .sign "\x7b" => some <$> tableConstructor r
    | .str s => do
        next
        pure (some ⟨.str s, [], []⟩)
    | _ => fail .argumentsExpected
  let base := registerOf f
  let count ← match args with
    | .none => pure ((← current).free - base)
    | some e =>
        if e.isMultiple then pure 0
        else do
          discard (toNextRegister e)
          pure ((← current).free - base)
  let place ← emit (.call base count 2)
  setLine line
  modifyCurrent fun f => { f with free := base + 1 }
  return ⟨.call place, [], []⟩

/-- A field after a point or colon. -/
def namedField (e : Expression) : Compile Expression := do
  let e ← toAnyRegisterOrOuter e
  next
  let name ← expectName
  fieldOf e ⟨.str (Bytes.ofText name), [], []⟩

/-- A name or an expression in parentheses. -/
def primary (r : Readers) : Compile Expression := do
  match (← get).token with
  | .name s =>
      next
      variableOf s
  | .sign "(" =>
      let line ← line
      next
      let e ← expression r
      expectClosing ")" "(" line
      discharge e
  | _ => fail .unexpectedSymbol

/-- Fields and calls after an expression. -/
def suffixes (r : Readers) : Nat → Expression → Compile Expression
  | 0, e => return e
  | fuel + 1, e => do
      match (← get).token with
      | .sign "." => suffixes r fuel (← namedField e)
      | .sign "[" =>
          let e ← toAnyRegisterOrOuter e
          let key ← bracketed r
          suffixes r fuel (← fieldOf e key)
      | .sign ":" =>
          next
          let name ← expectName
          let f ← methodOf e (Bytes.ofText name)
          suffixes r fuel (← callArguments r f)
      | .sign "(" | .sign "\x7b" | .str _ =>
          let f ← toNextRegister e
          suffixes r fuel (← callArguments r f)
      | _ => return e

/-- A name or an expression in parentheses, with fields and calls. -/
def suffixed (r : Readers) : Compile Expression := do
  suffixes r (← tokensLeft) (← primary r)

/-! ## Section 5: Operators -/

/-- An expression without operators. -/
def simple (r : Readers) : Compile Expression := do
  let literal (kind : ExpressionKind) : Compile Expression := do
    next
    return ⟨kind, [], []⟩
  match (← get).token with
  | .number (.int n) => literal (.int n)
  | .number (.float x) => literal (.float x)
  | .str s => literal (.str s)
  | .sign "nil" => literal .nil
  | .sign "true" => literal (.bool true)
  | .sign "false" => literal (.bool false)
  | .sign "..." =>
      if !(← current).isVararg then fail .varargsOutside
      let place ← emit (.varargs 0 2)
      literal (.varargs place)
  | .sign "\x7b" => tableConstructor r
  | .sign "function" =>
      next
      functionBody r false (← line)
  | _ => suffixed r

/-- The operator that the current token is. -/
def operator? : Compile (Option BinaryOp) := do
  match (← get).token with
  | .sign s => return BinaryOp.ofSign? s
  | _ => return .none

/-- Operators that bind more closely than a limit, after an operand. -/
def operators (r : Readers) (limit : Nat) :
    Nat → Expression → Option BinaryOp → Compile (Expression × Option BinaryOp)
  | 0, e, op => return (e, op)
  | fuel + 1, e, op => do
      match op with
      | .none => return (e, op)
      | some o =>
          if o.leftPriority ≤ limit then return (e, op)
          let line ← line
          next
          let e ← beforeRight o e
          let (right, nextOp) ← r.operand o.rightPriority
          operators r limit fuel (← binary o e right line) nextOp

/-- An expression whose operators bind more closely than a limit. -/
def operand (r : Readers) (limit : Nat) : Compile (Expression × Option BinaryOp) := do
  let prefixed := match (← get).token with
    | .sign s => UnaryOp.ofSign? s
    | _ => .none
  let e ← match prefixed with
    | some op => do
        let line ← line
        next
        let (e, _) ← r.operand unaryPriority
        unary op e line
    | .none => simple r
  operators r limit (← tokensLeft) e (← operator?)

/-! ## Section 6: Assignment -/

/-- Provide as many values as there are variables: the last expression has more or none of them. -/
def adjustValues (targets expressions : Nat) (last : Option Expression) : Compile Unit := do
  match last with
  | some e =>
      if e.isMultiple then setResults e (some (targets + 1 - expressions))
      else do
        discard (toNextRegister e)
        if targets > expressions then
          emitNil (← current).free (targets - expressions)
  | .none =>
      if targets > expressions then emitNil (← current).free (targets - expressions)
  if targets > expressions then reserve (targets - expressions)
  else modifyCurrent fun f => { f with free := f.free - (expressions - targets) }

/-- Let earlier targets use a copy of a variable that a later target assigns to. The targets stand in
reverse. -/
def avoidConflict (targets : List Expression) (v : Expression) : Compile (List Expression) := do
  let extra := (← current).free
  let isConflict (e : Expression) : Bool := match e.kind, v.kind with
    | .outerField o _, .outer place => o = place
    | .indexed object key, .localVariable r _ => object = r || key = r
    | .intField object _, .localVariable r _ => object = r
    | .field object _, .localVariable r _ => object = r
    | _, _ => false
  let safe (e : Expression) : Expression :=
    if !isConflict e then e
    else
      match e.kind, v.kind with
      | .outerField _ k, _ => { e with kind := .field extra k }
      | .indexed object key, .localVariable r _ =>
          let object := if object = r then extra else object
          { e with kind := .indexed object (if key = r then extra else key) }
      | .intField _ key, _ => { e with kind := .intField extra key }
      | .field _ k, _ => { e with kind := .field extra k }
      | _, _ => e
  if targets.any isConflict then
    match v.kind with
    | .localVariable r _ => emitOnly (.move extra r)
    | .outer place => emitOnly (.getOuter extra place)
    | _ => pure ()
    reserve 1
  return targets.map safe

/-- Store the values in the last registers, one for each target. The targets stand in reverse. -/
def storeTargets : List Expression → Compile Unit
  | [] => pure ()
  | target :: rest => do
      let free := (← current).free
      store target ⟨.register (free - 1), [], []⟩
      storeTargets rest

/-- The values of an assignment to some targets, which stand in reverse. -/
def assignValues (r : Readers) (targets : List Expression) : Compile Unit := do
  expect "="
  let (e, count) ← expressions r
  if count = targets.length then
    match targets with
    | [] => pure ()
    | target :: rest =>
        store target (← single e)
        storeTargets rest
  else
    adjustValues targets.length count (some e)
    storeTargets targets

/-- Require a target of an assignment. -/
def requireTarget (e : Expression) : Compile Unit := do
  if !e.isVariable then fail .statement
  requirePlain e

/-! ## Section 7: Statements -/

/-- A condition, with the jumps that leave when it is false. -/
def condition (r : Readers) : Compile (List Nat) := do
  let e ← expression r
  let e := match e.kind with
    | .nil => { e with kind := .bool false }
    | _ => e
  return (← prepareTrue e).whenFalse

/-- One branch of a conditional, from its first word on. The jumps to its end that come from branches
before it are given, and those with its own are returned. -/
def branch (r : Readers) (toEnd : List Nat) : Compile (List Nat) := do
  next
  let e ← expression r
  expect "then"
  let skip? : Option (List Nat) ← do
    if ← sees "break" then
      let line ← line
      let e ← prepareFalse e
      next
      enterBlock false
      addPending breakLabel line e.whenTrue
      repeating (accept ";")
      if ← seesBlockEnd false then
        leaveBlock
        pure .none
      else some <$> List.singleton <$> emitJump
    else
      let e ← prepareTrue e
      enterBlock false
      pure (some e.whenFalse)
  match skip? with
  | .none => return toEnd
  | some skip =>
      statements r
      leaveBlock
      let toEnd ← if (← sees "else") || (← sees "elseif") then do pure (toEnd ++ [← emitJump])
        else pure toEnd
      patchToHere skip
      return toEnd

/-- Further branches of a conditional. -/
def branches (r : Readers) : Nat → List Nat → Compile (List Nat)
  | 0, toEnd => return toEnd
  | fuel + 1, toEnd => do
      if ← sees "elseif" then branches r fuel (← branch r toEnd) else return toEnd

/-- A conditional. -/
def conditional (r : Readers) (line : Nat) : Compile Unit := do
  let toEnd ← branches r (← tokensLeft) (← branch r [])
  if ← accept "else" then readBlock r
  expectClosing "end" "if" line
  patchToHere toEnd

/-- A loop with a condition before it. -/
def whileLoop (r : Readers) (line : Nat) : Compile Unit := do
  next
  let start ← here
  let leave ← condition r
  enterBlock true
  expect "do"
  readBlock r
  patch [← emitJump] start
  expectClosing "end" "while" line
  leaveBlock
  patchToHere leave

/-- A loop with a condition after it, in which its variables are in scope. -/
def repeatLoop (r : Readers) (line : Nat) : Compile Unit := do
  let start ← here
  enterBlock true
  enterBlock false
  next
  statements r
  expectClosing "until" "repeat" line
  let mut leave ← condition r
  let inner ← block
  leaveBlock
  if inner.isCaptured then
    let exit ← emitJump
    patchToHere leave
    emitOnly (.close (← registerLevel inner.variableCount))
    leave := [← emitJump]
    patchToHere [exit]
  patch leave start
  leaveBlock

/-- The name of variables of loops that programs do not see. -/
def loopState : String := "(for state)"

/-- The body of a loop over values. -/
def loopBody (r : Readers) (base line targets : Nat) (isGeneric : Bool) : Compile Unit := do
  expect "do"
  let prepare ← emit (if isGeneric then .genericPrepare base 0 else .numericPrepare base 0)
  enterBlock false
  activate targets
  reserve targets
  readBlock r
  leaveBlock
  setJumps [prepare] (← here)
  if isGeneric then
    emitOnly (.genericCall base targets)
    setLine line
  let back ← emit (if isGeneric then .genericLoop base 0 else .numericLoop base 0)
  setJumps [back] (prepare + 1)
  setLine line

/-- A loop over numbers. -/
def numericLoop (r : Readers) (name : String) (line : Nat) : Compile Unit := do
  let base := (← current).free
  (List.replicate 3 loopState).forM fun s => discard (declare s)
  discard (declare name)
  expect "="
  expressionInRegister r
  expect ","
  expressionInRegister r
  if ← accept "," then expressionInRegister r
  else
    loadInt (← current).free 1
    reserve 1
  activate 3
  loopBody r base line 1 false

/-- Names between commas, each of which is declared; their number. -/
def moreNames : Nat → Nat → Compile Nat
  | 0, count => return count
  | fuel + 1, count => do
      if ← accept "," then
        discard (declare (← expectName))
        moreNames fuel (count + 1)
      else return count

/-- A loop over what a function gives. -/
def genericLoop (r : Readers) (name : String) : Compile Unit := do
  let base := (← current).free
  (List.replicate 4 loopState).forM fun s => discard (declare s)
  discard (declare name)
  let count ← moreNames (← tokensLeft) 1
  expect "in"
  let line ← line
  let (e, values) ← expressions r
  adjustValues 4 values (some e)
  activate 4
  markClosing
  checkRegisters 3
  loopBody r base line count true

/-- A loop over values. -/
def forLoop (r : Readers) (line : Nat) : Compile Unit := do
  enterBlock true
  next
  let name ← expectName
  if ← sees "=" then numericLoop r name line
  else if (← sees ",") || (← sees "in") then genericLoop r name
  else fail .loopExpected
  expectClosing "end" "for" line
  leaveBlock

/-- Fields after the name of a function. -/
def functionFields : Nat → Expression → Compile Expression
  | 0, e => return e
  | fuel + 1, e => do if ← sees "." then functionFields fuel (← namedField e) else return e

/-- A function that is assigned to a variable or field. -/
def functionStatement (r : Readers) (line : Nat) : Compile Unit := do
  next
  let name ← expectName
  let target ← functionFields (← tokensLeft) (← variableOf name)
  let isMethod ← sees ":"
  let target ← if isMethod then namedField target else pure target
  requirePlain target
  let body ← functionBody r isMethod line
  store target body
  setLine line

/-- A local function, which is in scope inside itself. -/
def localFunction (r : Readers) : Compile Unit := do
  let place := (← current).active
  discard (declare (← expectName))
  activate 1
  discard (functionBody r false (← line))
  let start := (← current).code.size
  modifyScope place fun s => { s with start }

/-- What is declared of a local variable. -/
def declaredKind : Compile VariableKind := do
  if ← accept "<" then
    let name ← expectName
    expect ">"
    match name with
    | "const" => return .constant
    | "close" => return .closing
    | _ => failMeaning (.unknownAttribute name)
  return .plain

/-- Local variables between commas: their number, the place of the last one, and the one to be closed,
counted from the first one. -/
def localNames : Nat → Nat → Option Nat → Compile (Nat × Nat × Option Nat)
  | 0, count, closing => return (count, 0, closing)
  | fuel + 1, count, closing => do
      let place ← declare (← expectName)
      let kind ← declaredKind
      modify fun b => b.modifyVariable place fun v => { v with kind }
      let isClosing := match kind with
        | .closing => true
        | _ => false
      if isClosing && closing.isSome then failMeaning .twoClosing
      let closing := if isClosing then some count else closing
      if ← accept "," then localNames fuel (count + 1) closing else return (count + 1, place, closing)

/-- The value of the last of some variables, if it is constant and its value is known. -/
def knownValue? (place : Nat) (e : Expression) : Compile (Option Val) := do
  let b ← get
  match (b.variableOf b.current place).kind with
  | .constant =>
      match e.kind with
      | .known other =>
          if e.hasJumps then return .none
          return match ((b.variableList[other]?).map Variable.kind) with
            | some (.known v) => some v
            | _ => .none
      | _ => return e.literal?
  | _ => return .none

/-- Local variables. -/
def localStatement (r : Readers) : Compile Unit := do
  let active := (← current).active
  let (count, place, closing) ← localNames (← tokensLeft) 0 .none
  let values ← if ← accept "=" then some <$> expressions r else pure .none
  let known? ← match values with
    | some (e, n) => if n = count then knownValue? place e else pure .none
    | .none => pure .none
  match known? with
  | some v =>
      modify fun b => b.modifyVariable place fun x => { x with kind := .known v }
      activate (count - 1)
      modifyCurrent fun f => { f with active := f.active + 1 }
  | .none =>
      match values with
      | some (e, n) => adjustValues count n (some e)
      | .none => adjustValues count 0 .none
      activate count
  match closing with
  | some i =>
      markClosing
      emitOnly (.toClose (← registerLevel (active + i)))
  | .none => pure ()

/-- A label. Statements that do nothing after it are skipped. -/
def labelStatement (r : Readers) (line : Nat) : Compile Unit := do
  next
  let name ← expectName
  expect "::"
  repeating do
    if (← sees ";") || (← sees "::") then
      r.statement
      return true
    return false
  match ← label? name with
  | some l => failMeaning (.repeatedLabel name l.line)
  | .none => discard (addLabel name line (← seesBlockEnd false))

/-- A jump to a label. -/
def gotoStatement : Compile Unit := do
  next
  let line ← line
  jumpTo (← expectName) line

/-- A jump out of a loop. -/
def breakStatement : Compile Unit := do
  let line ← line
  next
  addPending breakLabel line [← emitJump]

/-- A return. A single call takes the place of the function that returns. -/
def returnStatement (r : Readers) : Compile Unit := do
  next
  let first ← variableLevel
  if (← seesBlockEnd true) || (← sees ";") then emitReturn first (some 0)
  else
    let (e, count) ← expressions r
    if e.isMultiple then
      setResults e .none
      match e.kind with
      | .call place =>
          if count = 1 && !(← block).insideClosing then
            modifyAt place fun
              | .call f args _ => .tailCall f args false
              | i => i
      | _ => pure ()
      emitReturn first .none
    else if count = 1 then
      let e ← toAnyRegister e
      emitReturn (registerOf e) (some 1)
    else
      discard (toNextRegister e)
      emitReturn first (some count)
  discard (accept ";")

/-- Further targets of an assignment and its values. Each target is one step deeper. The readers stand
in a list, those for the next depth first. -/
def assignment : List Readers → Readers → List Expression → Compile Unit
  | deeper, r, targets => do
      match targets with
      | e :: _ => requireTarget e
      | [] => pure ()
      match deeper with
      | [] => if ← sees "," then failDeep else assignValues r targets
      | inner :: deeper =>
          if ← accept "," then
            let e ← suffixed r
            let targets ← if e.isIndexed then pure targets else avoidConflict targets e
            assignment deeper inner (e :: targets)
          else assignValues r targets

/-- A call or an assignment. -/
def expressionStatement (deeper : List Readers) (r : Readers) : Compile Unit := do
  let e ← suffixed r
  if (← sees "=") || (← sees ",") then assignment deeper r [e]
  else
    match e.kind with
    | .call place =>
        modifyAt place fun
          | .call f args _ => .call f args 1
          | i => i
    | _ => fail .statement

/-- A statement. The readers are for what is inside it. -/
def statement (deeper : List Readers) (r : Readers) : Compile Unit := do
  let line ← line
  match (← get).token with
  | .sign ";" => next
  | .sign "if" => conditional r line
  | .sign "while" => whileLoop r line
  | .sign "do" =>
      next
      readBlock r
      expectClosing "end" "do" line
  | .sign "for" => forLoop r line
  | .sign "repeat" => repeatLoop r line
  | .sign "function" => functionStatement r line
  | .sign "local" =>
      next
      if ← accept "function" then localFunction r else localStatement r
  | .sign "::" => labelStatement r line
  | .sign "return" => returnStatement r
  | .sign "break" => breakStatement
  | .sign "goto" => gotoStatement
  | _ => expressionStatement deeper r
  let level ← variableLevel
  modifyCurrent fun f => { f with free := level }

/-! ## Section 8: Programs -/

/-- Readers for a number of steps of depth, and those for fewer steps. -/
def readers : Nat → Readers × List Readers
  | 0 => (.none, [])
  | depth + 1 =>
      let (inner, deeper) := readers depth
      (⟨operand inner, statement deeper inner⟩, inner :: deeper)

/-- A whole program. -/
def program (depth : Nat) : Compile Prototype := do
  enterBlock false
  setVararg 0
  modifyCurrent fun f => { f with outers := #[⟨globalsName, true, 0, .plain⟩] }
  next
  statements (readers depth).1
  match (← get).token with
  | .ending => pure ()
  | _ => fail (.expected "<eof>")
  closeFunction

end Compile

/-- How deeply statements and expressions can nest, with the calls around the compilation. -/
def maxDepth : Nat := 200

/-- A program from its text, compiled inside a number of calls. -/
def compile (title source : Bytes) (calls : Nat) : Except SyntaxError Prototype :=
  let builder : Builder :=
    { scanner := { rest := source.chars, size := source.size }
      current := { line := 0, firstVariable := 0, firstLabel := 0 }
      title }
  (Compile.program (maxDepth - 1 - calls)).run builder |>.map Prod.fst

end Folio.Lua
