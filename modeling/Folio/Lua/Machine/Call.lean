import Folio.Lua.Machine.State

/-!
# Calls

A call begins with a function and its arguments on the stack. A value that is no function is called
through its metatable, with itself as the first argument.

Calls that a program cannot see, those for metatables and from functions of the library, are limited in
depth; calls of functions in a program only by the size of the stack.

Main definitions:
- `Lua.Machine.perform`: go on in a function of the library
- `Lua.Machine.startCall`
- `Lua.Machine.callFrom`: a call from a function of the library
- `Lua.Machine.callHandler`: a call for a metatable
- `Lua.Machine.tailCall`
-/

namespace Folio.Lua.Machine

/-! ## Section 1: Functions of the library -/

/-- Run a function of the library up to its next action. -/
def perform (m : Machine) (c : Effect) : Progress :=
  let memory := m.memory
  let m := { m with memory := {} }
  let (action, memory) := c memory
  .act { m with memory } action

/-! ## Section 2: Frames -/

/-- How a call is meant. -/
structure CallKind where
  wanted : Option Nat := none
  after : After := .place
  /-- Whether the program cannot see the call. -/
  isHidden : Bool := false
  /-- Whether the thread cannot yield during the call. -/
  blocks : Bool := false

/-- The calls that are running with one more, unless there are too many. -/
def countCall (m : Machine) (kind : CallKind) : Machine × Option Progress :=
  if !kind.isHidden then (m, none)
  else
    let calls := m.calls + 1
    let m := { m with calls, blocked := m.blocked + (if kind.blocks then 1 else 0) }
    if calls = maxCalls then (m, some (m.failText "C stack overflow"))
    else if calls ≥ maxHandlerCalls then (m, some (.unwind m handlerFailure))
    else (m, none)

/-- The frame of a call. -/
def newFrame (m : Machine) (kind : CallKind) (func limit : Nat) : Frame :=
  { func, base := func + 1, limit, wanted := kind.wanted, after := kind.after
    cost := if kind.isHidden then 1 else 0, epoch := m.info.epoch, blocks := kind.blocks }

/-- Put a frame on those that run. -/
def pushFrame (m : Machine) (frame : Frame) : Machine :=
  let caller := { m.frame with pc := m.pc }
  { m with frames := caller :: m.frames, frame, pc := 0 }

/-- Fail because a value is no function. -/
def failCall (m : Machine) (func : Nat) : Progress :=
  let v := m.stackAt func
  let what :=
    if !m.frame.isCode then ByteArray.empty
    else
      match m.frame.prototype.callName? m.currentPlace with
      | some n => n.text
      | none =>
          if m.frame.base ≤ func && func < m.frame.limit then
            m.spotText (.register (func - m.frame.base))
          else ByteArray.empty
  m.failType "call" v what

/-- Move the values from a place on up by one. -/
def makeRoom (m : Machine) (place : Nat) : Machine :=
  let m := m.ensure (m.top + 1)
  let moved := m.values place (m.top - place)
  { m.putAll (place + 1) moved with top := m.top + 1 }

/-- Let the function at a place be one that can be called, with the values that stand for it in front
of the arguments. The size of the stack bounds the steps. -/
def resolveCallee (func : Nat) : Nat → Machine → Machine × Option Progress
  | 0, m => (m, some (m.failText "stack overflow"))
  | fuel + 1, m =>
      match m.stackAt func with
      | .function _ => (m, none)
      | v =>
          match m.memory.handler v .call with
          | .nil => (m, some (m.failCall func))
          | handler =>
              match m.checkStack 1 with
              | some p => (m, some p)
              | none => resolveCallee func fuel ((m.makeRoom func).put func handler)

/-! ## Section 3: Calls -/

/-- Begin to run a function of a program, whose arguments are on the stack. -/
def enterCode (m : Machine) (kind : CallKind) (func : Nat) (p : Prototype) (cells : Array Nat) :
    Progress :=
  match m.checkStack p.registers with
  | some progress => progress
  | none =>
      let limit := func + 1 + p.registers
      let count := m.top - func - 1
      let m := m.ensure (max limit m.top)
      let missing := p.parameters - count
      let m := if missing > 0 then { m.clear m.top missing with top := m.top + missing } else m
      let frame : Frame :=
        { m.newFrame kind func limit with
          isCode := true, prototype := p, code := p.code, constants := p.constants, cells }
      .run (m.pushFrame frame)

/-- The values that a function of the library always has room for. -/
def nativeRoom : Nat := 20

/-- Run a function of the library, whose arguments are on the stack. -/
def enterNative (m : Machine) (kind : CallKind) (func id index : Nat) (state : List Val) :
    Progress :=
  match m.checkStack nativeRoom with
  | some progress => progress
  | none =>
      let count := m.top - func - 1
      let m := m.ensure (m.top + nativeRoom)
      let args := m.values (func + 1) count
      let frame := { m.newFrame kind func (m.top + nativeRoom) with extra := count }
      match m.library[index]? with
      | some native => (m.pushFrame frame).perform (native id state args)
      | none => (m.pushFrame frame).perform (Effect.finish [])

/-- Begin a call whose function and arguments are on the stack, up to its top. -/
def startCall (m : Machine) (kind : CallKind) (func : Nat) : Progress :=
  match m.countCall kind with
  | (_, some progress) => progress
  | (m, none) =>
      match m.resolveCallee func (maxStack + handlerStack + 1) with
      | (_, some progress) => progress
      | (m, none) =>
          match m.stackAt func with
          | .function id =>
              match m.memory.functions.getD id default with
              | .closure p cells => m.enterCode kind func p cells
              | .native index state => m.enterNative kind func id index state
          | _ => m.failCall func

/-- Put a function and its arguments on the stack and begin the call. -/
def pushCall (m : Machine) (kind : CallKind) (func : Nat) (f : Val) (args : List Val) : Progress :=
  let count := args.length
  let m := m.ensure (func + 1 + count)
  let m := (m.put func f).putAll (func + 1) args
  { m with top := func + 1 + count }.startCall kind func

/-- The place behind what the running function has on the stack. -/
def callPlace (m : Machine) : Nat := if m.frame.isCode then m.frame.limit else m.frame.nativeTop

/-- Call a value from a function of the library. Whether the thread cannot stop during the call. -/
def callFrom (m : Machine) (blocks : Bool) (f : Val) (args : List Val)
    (next : List Val → Effect) : Progress :=
  m.pushCall { after := .native next, isHidden := true, blocks } m.callPlace f args

/-- Call what a metatable has, for an instruction. -/
def callHandler (m : Machine) (f : Val) (args : List Val) (wanted : Nat) (opposite : Bool) :
    Progress :=
  m.pushCall { wanted := some wanted, after := .operation opposite, isHidden := true } m.callPlace f
    args

/-- Let a call take the place of the running one. -/
def tailCall (m : Machine) (func : Nat) : Progress :=
  match m.resolveCallee func (maxStack + handlerStack + 1) with
  | (_, some progress) => progress
  | (m, none) =>
      match m.stackAt func with
      | .function id =>
          match m.memory.functions.getD id default with
          | .native index state => m.enterNative {} func id index state
          | .closure p cells =>
              let frame := m.frame
              let delta :=
                if frame.prototype.isVararg then frame.extra + frame.prototype.parameters + 1 else 0
              match if p.registers > delta then m.checkStack (p.registers - delta) else none with
              | some progress => progress
              | none =>
                  let target := frame.func - delta
                  let count := m.top - func
                  let m := m.ensure (max (target + 1 + p.registers) m.top)
                  let m := m.moveDown func target count
                  let missing := p.parameters + 1 - count
                  let m := m.clear (target + count) missing
                  let limit := target + 1 + p.registers
                  .run { m with
                    top := target + count + missing
                    pc := 0
                    frame := { frame with
                      func := target, base := target + 1, limit, prototype := p, code := p.code
                      constants := p.constants, cells, extra := 0, isTail := true } }
      | _ => m.failCall func

end Folio.Lua.Machine
