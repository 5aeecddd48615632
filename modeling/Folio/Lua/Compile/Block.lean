import Folio.Lua.Compile.Operand

/-!
# Blocks

Blocks with their variables and labels, jumps to labels, and functions as blocks.

A jump to a label that was not met yet waits in the block; when the block ends, it waits in the block
around it. It must not lead into the scope of a variable.

Main definitions:
- `Lua.Compile.enterBlock`, `Lua.Compile.leaveBlock`
- `Lua.Compile.addLabel`, `Lua.Compile.jumpTo`: labels and jumps
- `Lua.Compile.openFunction`, `Lua.Compile.closeFunction`
- `Lua.Compile.variableOf`: what a name means
-/

namespace Folio.Lua.Compile

/-! ## Section 1: Labels -/

/-- The label to which leaving a loop leads. -/
def breakLabel : String := "break"

/-- The innermost block. -/
def block : Compile Block := do return (← current).blocks.headD default

/-- Change the innermost block. -/
def modifyBlock (f : Block → Block) : Compile Unit := modifyCurrent fun s =>
  { s with blocks := match s.blocks with
      | b :: rest => f b :: rest
      | [] => [] }

/-- A label of the function. -/
def label? (name : String) : Compile (Option Label) := do
  let b ← get
  return (b.labels.toList.drop b.current.firstLabel).find? fun l => l.name == name

/-- Fail because a jump leads into the scope of a variable. -/
def failIntoScope {α : Type} (jump : PendingJump) : Compile α := do
  let b ← get
  let entered := (b.variableOf b.current jump.variableCount).name
  failMeaning (.jumpsIntoScope jump.name jump.line entered)

/-- Let the jumps that wait in the block lead to a label. Whether one of them needs variables to be
closed. -/
def solvePending (l : Label) : Compile Bool := do
  let pending := (← get).pending.toList
  let first := (← block).firstPending
  let waiting := pending.drop first
  let solved := waiting.filter fun j => j.name == l.name
  solved.forM fun j => do
    if j.variableCount < l.variableCount then failIntoScope j
    patch j.jumps l.place
  let left := pending.take first ++ waiting.filter fun j => j.name != l.name
  modify fun b => { b with pending := left.toArray }
  return solved.any PendingJump.closes

/-- A label here. At the end of a block its variables are no longer in scope. Whether variables are
closed here. -/
def addLabel (name : String) (line : Nat) (isLast : Bool) : Compile Bool := do
  let place ← here
  let variableCount ← if isLast then Block.variableCount <$> block
    else FunctionState.active <$> current
  let l : Label := { name, place, line, variableCount }
  modify fun b => { b with labels := b.labels.push l }
  if ← solvePending l then
    emitOnly (.close (← variableLevel))
    return true
  return false

/-- Let jumps wait for a label. -/
def addPending (name : String) (line : Nat) (jumps : List Nat) : Compile Unit := modify fun b =>
  { b with pending := b.pending.push { name, jumps, line, variableCount := b.current.active } }

/-- Jump to a label. -/
def jumpTo (name : String) (line : Nat) : Compile Unit := do
  match ← label? name with
  | none => addPending name line [← emitJump]
  | some l =>
      let level ← registerLevel l.variableCount
      if (← variableLevel) > level then emitOnly (.close level)
      patch [← emitJump] l.place

/-! ## Section 2: Blocks -/

/-- Begin a block. -/
def enterBlock (isLoop : Bool) : Compile Unit := modify fun b =>
  let f := b.current
  let inner : Block :=
    { isLoop, variableCount := f.active, firstLabel := b.labels.size, firstPending := b.pending.size
      insideClosing := (f.blocks.head?.map Block.insideClosing).getD false }
  { b with current := { b.current with blocks := inner :: f.blocks } }

/-- Let the jumps that wait in a block wait in the block around it. -/
def movePending (inner : Block) : Compile Unit := modify fun b =>
  let level := b.registerLevel b.current inner.variableCount
  let move (j : PendingJump) : PendingJump :=
    { j with
      closes := j.closes
        || (inner.isCaptured && b.registerLevel b.current j.variableCount > level)
      variableCount := inner.variableCount }
  let pending := b.pending.toList
  { b with pending :=
      (pending.take inner.firstPending ++ (pending.drop inner.firstPending).map move).toArray }

/-- Fail because a label was not found. -/
def failNoLabel {α : Type} (j : PendingJump) : Compile α :=
  if j.name = breakLabel then failMeaning (.breakOutside j.line)
  else failMeaning (.noLabel j.name j.line)

/-- End a block. -/
def leaveBlock : Compile Unit := do
  let inner ← block
  let isNested := (← current).blocks.length > 1
  let level ← registerLevel inner.variableCount
  deactivate inner.variableCount
  let closed ← if inner.isLoop then addLabel breakLabel 0 false else pure false
  if !closed && isNested && inner.isCaptured then emitOnly (.close level)
  modify fun b =>
    { b with
      labels := b.labels.take inner.firstLabel
      current := { b.current with free := level, blocks := b.current.blocks.drop 1 } }
  if isNested then movePending inner
  else
    match (← get).pending[inner.firstPending]? with
    | some j => failNoLabel j
    | none => pure ()

/-- Remember that a variable of the block is to be closed. -/
def markClosing : Compile Unit := do
  modifyBlock fun b => { b with isCaptured := true, insideClosing := true }
  modifyCurrent fun f => { f with needsClose := true }

/-! ## Section 3: Functions -/

/-- Begin a function. -/
def openFunction (line : Nat) : Compile Unit := do
  modify fun b =>
    { b with
      current := { line, firstVariable := b.variableCount, firstLabel := b.labels.size }
      around := b.current :: b.around }
  enterBlock false

/-- Let the function take further arguments after some parameters. -/
def setVararg (parameters : Nat) : Compile Unit := do
  modifyCurrent fun f => { f with isVararg := true }
  emitOnly (.prepareVarargs parameters)

/-- Return values in a row. Without a number, they are all up to the top. -/
def emitReturn (first : Nat) (count : Option Nat) : Compile Unit :=
  emitOnly <| match count with
    | some 0 => .return0
    | some 1 => .return1 first
    | some n => .return first (n + 1) false
    | none => .return first 0 false

/-- Where a chain of jumps leads in the end. -/
def finalTarget (code : Array Instruction) : Nat → Nat → Nat
  | 0, place => place
  | fuel + 1, place =>
      match code[place]? with
      | some (.jump target) => finalTarget code fuel target
      | _ => place

/-- An instruction when the function is known as a whole. -/
def finished (f : FunctionState) (i : Instruction) : Instruction :=
  match i with
  | .return0 => if f.needsClose || f.isVararg then .return 0 1 f.needsClose else i
  | .return1 r => if f.needsClose || f.isVararg then .return r 2 f.needsClose else i
  | .return r n _ => .return r n f.needsClose
  | .tailCall r n _ => .tailCall r n f.needsClose
  | .jump target => .jump (finalTarget f.code 100 target)
  | i => i

/-- A function as it runs. -/
def prototypeOf (f : FunctionState) (title : Bytes) : Prototype where
  code := f.code.map (finished f)
  lines := f.lines
  constants := f.constants
  inner := f.inner
  outers := f.outers
  locals := f.locals
  parameters := f.parameters
  registers := f.registers
  line := f.line
  isVararg := f.isVararg
  title := title

/-- End a function. -/
def closeFunction : Compile Prototype := do
  emitReturn (← variableLevel) (some 0)
  leaveBlock
  let b ← get
  let p := prototypeOf b.current b.title
  match b.around with
  | [] => pure ()
  | f :: rest => set { b with current := f, around := rest }
  return p

/-! ## Section 4: Names -/

/-- How many outer variables a function can have. -/
def maxOuters : Nat := 255

/-- The local variable of a name, the innermost one. -/
def localOf? (b : Builder) (f : FunctionState) (name : String) : Nat → Option ExpressionKind
  | 0 => none
  | n + 1 =>
      let v := b.variableOf f n
      if v.name == name then
        match v.kind with
        | .known _ => some (.known (f.firstVariable + n))
        | _ => some (.localVariable v.register n)
      else localOf? b f name n

/-- Remember that a function inside uses a local variable. -/
def markCaptured (f : FunctionState) (variablePlace : Nat) : FunctionState :=
  let rec go : List Block → List Block
    | [] => []
    | b :: rest =>
        if b.variableCount > variablePlace then b :: go rest else { b with isCaptured := true } :: rest
  { f with blocks := go f.blocks, needsClose := true }

/-- Give a function an outer variable, which is a variable of the function around it. -/
def addOuter (b : Builder) (f around : FunctionState) (name : String) (inAround : ExpressionKind) :
    Option FunctionState :=
  let outer? : Option OuterVariable := match inAround with
    | .localVariable r place => some ⟨name, true, r, (b.variableOf around place).kind⟩
    | .outer place => some ⟨name, false, place, ((around.outers[place]?).map OuterVariable.kind).getD .plain⟩
    | _ => none
  outer?.map fun outer => { f with outers := f.outers.push outer }

/-- What a name means in a function, and the functions after that: the outer variables in between are
made. Nothing for a global variable. The first function that has too many outer variables stands
first in the result. -/
def resolve (b : Builder) (name : String) :
    Bool → List FunctionState → Option FunctionState × Option ExpressionKind × List FunctionState
  | _, [] => (none, none, [])
  | isBase, f :: rest =>
      match localOf? b f name f.active with
      | some (.localVariable r place) =>
          let f := if isBase then f else markCaptured f place
          (none, some (.localVariable r place), f :: rest)
      | some kind => (none, some kind, f :: rest)
      | none =>
          match f.outers.findIdx? fun o => o.name == name with
          | some place => (none, some (.outer place), f :: rest)
          | none =>
              match resolve b name false rest with
              | (none, some kind, around :: rest) =>
                  match addOuter b f around name kind with
                  | some f' =>
                      (if f'.outers.size > maxOuters then some f else none,
                        some (.outer f.outers.size), f' :: around :: rest)
                  | none => (none, some kind, f :: around :: rest)
              | (failed, kind, rest) => (failed, kind, f :: rest)

/-- What a name means; nothing for a global variable. -/
def meaningOf? (name : String) : Compile (Option ExpressionKind) := do
  let b ← get
  let (failed, kind?, functions) := resolve b name true (b.current :: b.around)
  match failed with
  | some f => fail (.tooMany "upvalues" maxOuters f.line)
  | none =>
      match functions with
      | f :: rest => set { b with current := f, around := rest }
      | [] => pure ()
      return kind?

/-- The outer variable whose fields the global variables are. -/
def globalsName : String := "_ENV"

/-- The variable of a name. -/
def variableOf (name : String) : Compile Expression := do
  match ← meaningOf? name with
  | some kind => return ⟨kind, [], []⟩
  | none =>
      let kind ← meaningOf? globalsName
      let globals ← toAnyRegisterOrOuter ⟨kind.getD .nil, [], []⟩
      fieldOf globals ⟨.str (Bytes.ofText name), [], []⟩

/-- Fail if an expression is a variable that cannot be assigned to. -/
def requirePlain (e : Expression) : Compile Unit := do
  let b ← get
  let constant? : Option String := match e.kind with
    | .known place => ((b.variableList[place]?).map Variable.name)
    | .localVariable _ place =>
        let v := b.variableOf b.current place
        if v.kind.isPlain then none else some v.name
    | .outer place =>
        match b.current.outers[place]? with
        | some o => if o.kind.isPlain then none else some o.name
        | none => none
    | _ => none
  match constant? with
  | some name => failMeaning (.assignConstant name)
  | none => pure ()

end Folio.Lua.Compile
