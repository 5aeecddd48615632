import Folio.Lua.Machine.Collect
import Folio.Lua.Machine.Execute
import Folio.Lua.Machine.Thread

/-!
# The machine

Runs a program step by step: instructions of functions of the program, and what functions of the
library ask for.

Main definitions:
- `Lua.Machine.act`: what a function of the library asks for
- `Lua.Machine.clean`: memory is cleaned up between instructions
- `Lua.Machine.call`: a call from its start to its end
-/

namespace Folio.Lua.Machine

/-! ## Section 1: Actions -/

/-- The place in the program of a function that was called. -/
def positionText (m : Machine) (level : Nat) : Bytes :=
  if level = 0 then m.here
  else
    match m.frames[level - 1]? with
    | some f =>
        if f.isCode then placeText f.prototype.title (f.prototype.lineAt (f.pc - 1)) else ByteArray.empty
    | none => ByteArray.empty

/-- The name under which the running function was called. -/
def calledAs? (m : Machine) : Option Naming :=
  match m.frames with
  | caller :: _ =>
      match m.frame.after with
      | .ignore => some ⟨"metamethod", Bytes.ofText "__gc"⟩
      | .entry => none
      | _ => if caller.isCode then caller.prototype.callName? (caller.pc - 1) else none
  | [] => none

/-- Call a value, whose failure is a result. -/
def protect (m : Machine) (handler : Option Val) (f : Val) (args : List Val)
    (next : Bool → List Val → Effect) : Progress :=
  let yieldable := m.blocked = 0
  let guard : Guard :=
    { handler := m.info.handler, calls := m.calls, blocked := m.blocked, yieldable, next }
  let place := m.callPlace
  { m with info := { m.info with handler } }.pushCall
    { after := .guarded guard, isHidden := true, blocks := !yieldable } place f args

/-- Tell things that they go, one after the other, and go on. -/
def tellAll : List (Val × Val) → Effect → Effect
  | [], next => next
  | (f, v) :: rest, next => fun memory =>
      (.protect none f [v] fun _ _ => tellAll rest next, memory)

/-- Clean memory up, unless it is being cleaned up. -/
def collectNow (m : Machine) (next : Effect) : Progress :=
  if m.memory.collector.isBusy then m.perform next
  else
    let (calls, m) := m.collect
    let busy (isBusy : Bool) (memory : Memory) : Memory :=
      { memory with collector := { memory.collector with isBusy } }
    if calls.isEmpty then m.perform next
    else
      { m with memory := busy true m.memory }.perform
        (tellAll calls fun memory => next (busy false memory))

/-- Do what a function of the library asks for. -/
def act (m : Machine) (action : Action) : Progress :=
  match action with
  | .finish values => m.deliver values
  | .fail v => .throw m v
  | .call f args next => m.callFrom true f args next
  | .visit f args next => m.callFrom false f args next
  | .protect handler f args next => m.protect handler f args next
  | .position level next =>
      let place := m.positionText level
      m.perform (next place)
  | .calledAs next =>
      let name := m.calledAs?
      m.perform (next name)
  | .depth next =>
      let calls := m.calls
      m.perform (next calls)
  | .spawn f next =>
      let (thread, m) := m.spawn f
      m.perform (next thread)
  | .resume thread args next => m.resume thread args next
  | .yield values => m.yield values
  | .running next =>
      let thread := m.thread
      m.perform (next thread (thread = 0))
  | .status thread next =>
      let status := m.statusOf thread
      m.perform (next status)
  | .yieldable thread next =>
      let answer := m.canYield thread
      m.perform (next answer)
  | .closeThread thread next => m.closeThread thread next
  | .collect next => m.collectNow next

/-! ## Section 2: Cleaning up between instructions -/

/-- Whether memory is to be cleaned up. -/
def isDue (m : Machine) : Bool :=
  let c := m.memory.collector
  c.used > c.limit && !c.isStopped && !c.isBusy

/-- Clean memory up between two instructions. -/
def clean (m : Machine) : Progress :=
  let (calls, m) := m.collect
  if calls.isEmpty then .run m
  else
    let place := m.frame.limit
    let frame : Frame :=
      { m.newFrame { after := .ignore, isHidden := true, blocks := true } place (place + nativeRoom) with
        extra := 0 }
    let busy (isBusy : Bool) (memory : Memory) : Memory :=
      { memory with collector := { memory.collector with isBusy } }
    let m := m.ensure (place + nativeRoom)
    let m := { m with calls := m.calls + 1, blocked := m.blocked + 1, memory := busy true m.memory }
    { m.pushFrame frame with top := place + 1 }.perform
      (tellAll calls fun memory => Effect.finish [] (busy false memory))

/-! ## Section 3: Runs -/

/-- Run steps, at most a number of them. -/
def steps : Nat → Progress → Machine × Except Val (List Val)
  | 0, .run m | 0, .act m _ | 0, .throw m _ | 0, .unwind m _ | 0, .done m _ =>
      (m, .error (.ofText "too many steps"))
  | fuel + 1, progress =>
      match progress with
      | .run m => if m.isDue then steps fuel m.clean else steps fuel m.execute
      | .act m action => steps fuel (m.act action)
      | .throw m v => steps fuel (m.throw v)
      | .unwind m v => steps fuel (m.unwind v)
      | .done m result => (m, result)

/-- How many steps a program can take. -/
def maxSteps : Nat := 1000000000000000

/-- The machine before a call from outside, with a stack that holds a handler of failures only. -/
def atRest (m : Machine) : Machine :=
  let frame : Frame := { func := 0, base := 1, limit := 2, extra := 1, after := .entry }
  { m with
    stack := Array.replicate 40 .nil
    top := 2
    pc := 0
    frame
    frames := []
    openCells := []
    closing := []
    calls := 0
    blocked := 1
    info := { status := .running, isStarted := true }
    thread := 0 }

/-- Run a computation from outside. -/
def runOutside (m : Machine) (c : Effect) : Machine × Except Val (List Val) :=
  let (m, result) := steps maxSteps (m.atRest.perform c)
  (m.atRest, result)

/-- Call a value from outside. -/
def call (m : Machine) (f : Val) (args : List Val) : Machine × Except Val (List Val) :=
  m.runOutside fun memory =>
    (.protect none f args fun ok values =>
      if ok then Effect.finish values else failWith (firstOf values), memory)

end Folio.Lua.Machine
