import Folio.Lua.Machine.Evaluate

/-!
# Returns and failures

What happens when a call returns or fails. A variable that is to be closed is told so when its block or
function ends, and when a failure ends it; a failure then goes on to the next guarded call.

Main definitions:
- `Lua.Machine.deliver`: the results of a call
- `Lua.Machine.closeNext`: the next variable to be closed
- `Lua.Machine.throw`, `Lua.Machine.unwind`: failures
-/

namespace Folio.Lua.Machine

/-! ## Section 1: Closing -/

/-- Call what closes the variable at a place. The call stands at another place. -/
def closeVariable (m : Machine) (place func : Nat) (failure : Val) (kind : CallKind) : Progress :=
  let v := m.stackAt place
  let handler := m.memory.handler v .close
  m.pushCall { kind with isHidden := true, wanted := some 0 } func handler [v, failure]

/-- The highest place of a variable to be closed, if it is not below a level. -/
def nextClosing? (m : Machine) (level : Nat) : Option Nat := m.closing.head?.filter (level ≤ ·)

/-- Forget the highest variable to be closed. -/
def dropClosing (m : Machine) : Machine := { m with closing := m.closing.tail }

/-- Remember that a variable is to be closed. A value that cannot be closed is a failure, unless it is
false. -/
def markClosing (m : Machine) (register : Nat) : Progress :=
  let place := m.frame.base + register
  let v := m.stackAt place
  if !v.isTrue then .run m
  else
    match m.memory.handler v .close with
    | .nil =>
        let name := (m.frame.prototype.localName? register m.currentPlace).getD "?"
        m.failText ("variable '" ++ name ++ "' got a non-closable value")
    | _ => .run { m with closing := place :: m.closing }

/-! ## Section 2: Frames that end -/

/-- End the running call. -/
def popFrame (m : Machine) : Machine :=
  match m.frames with
  | [] => m
  | caller :: rest =>
      let f := m.frame
      { m with
        frame := caller
        frames := rest
        pc := caller.pc
        calls := if f.epoch = m.info.epoch then m.calls - f.cost else m.calls
        blocked := if f.blocks then m.blocked - 1 else m.blocked }

/-- Save the running thread. -/
def saved (m : Machine) : Thread where
  stack := m.stack
  top := m.top
  pc := m.pc
  frame := m.frame
  frames := m.frames
  openCells := m.openCells
  closing := m.closing
  calls := m.calls
  blocked := m.blocked
  info := m.info

/-- Let another thread run. -/
def switchTo (m : Machine) (thread : Nat) : Machine :=
  let threads := m.threads.setIfInBounds m.thread m.saved
  let t := threads.getD thread default
  { m with
    threads := threads.setIfInBounds thread {}
    thread
    stack := t.stack, top := t.top, pc := t.pc, frame := t.frame, frames := t.frames
    openCells := t.openCells, closing := t.closing, calls := t.calls, blocked := t.blocked
    info := t.info }

/-- Set the status of the running thread. -/
def setStatus (m : Machine) (status : ThreadStatus) : Machine :=
  { m with info := { m.info with status } }

/-- Go back to the thread that resumed the running one, with an answer for it. -/
def leaveThread (m : Machine) (ok : Bool) (values : List Val) : Progress :=
  let m := m.switchTo m.info.resumer
  let next := m.info.next
  let m := m.setStatus .running
  m.perform (next ok values)

/-- End the running thread with its results. -/
def finishThread (m : Machine) (values : List Val) : Progress :=
  if m.thread = 0 then .done m (.ok values)
  else
    let m := m.setStatus .dead
    { m with stack := #[], top := 0, frames := [], openCells := [], closing := [] }.leaveThread true
      values

/-- End the running thread with a failure. Its variables are not closed. -/
def failThread (m : Machine) (v : Val) : Progress :=
  if m.thread = 0 then .done m (.error v)
  else
    let info := { m.info with status := .dead, failure := some v }
    { m with info }.leaveThread false [v]

/-! ## Section 3: Failures -/

/-- Leave the running function of the library for the guard whose call ended. -/
def endGuard (m : Machine) (guard : Guard) (ok : Bool) (values : List Val) : Progress :=
  { m with info := { m.info with handler := guard.handler } }.perform (guard.next ok values)

/-- Whether a stack that was too large is small enough again. -/
def settleStack (m : Machine) : Machine :=
  if m.info.isOverflown then { m with info := { m.info with isOverflown := false } } else m

/-- Close the next variable after a failure or at the end of a thread. When all are closed, go on. -/
def closeNext (m : Machine) (u : Unwinding) : Progress :=
  let m := m.closeCells u.level
  match m.nextClosing? u.level with
  | some place =>
      m.dropClosing.closeVariable place (place + 2) (u.failure.getD .nil)
        { after := .unwinding u, blocks := !(u.guard.any Guard.yieldable) }
  | none =>
      match u.guard with
      | some guard =>
          { m.settleStack with top := m.frame.nativeTop }.endGuard guard false
            [u.failure.getD .nil]
      | none =>
          let info := { m.info with status := .dead, failure := none, isOverflown := false }
          match u.failure with
          | none => { m with info, stack := #[], top := 0 }.leaveThread true []
          | some v => { m with info, stack := #[], top := 0 }.leaveThread false [v]

/-- Let the calls that a program cannot see be those of a guard. A thread that could be left goes on
like one that was just resumed. -/
def restoreCalls (m : Machine) (guard : Guard) : Machine :=
  if guard.yieldable then
    { m with
      calls := m.info.baseCalls
      blocked := guard.blocked
      info := { m.info with epoch := m.info.epoch + 1 } }
  else { m with calls := guard.calls, blocked := guard.blocked }

/-- Take frames off until one whose failure is a result, or until none is left. The number of frames
bounds the steps. -/
def unwindSteps (v : Val) : Nat → Machine → Progress
  | 0, m => m.failThread v
  | fuel + 1, m =>
      match m.frame.after with
      | .guarded guard =>
          let level := m.frame.func
          let m := m.popFrame.restoreCalls guard
          m.closeNext { level, failure := some v, guard := some guard }
      | .unwinding u =>
          let m := m.popFrame
          let m := match u.guard with
            | some guard => m.restoreCalls guard
            | none => { m with calls := m.info.baseCalls, blocked := 0 }
          m.closeNext { u with failure := some v }
      | .ignore =>
          let m := m.popFrame
          if m.frame.isCode then .run m else .act m (.finish [])
      | .entry => m.failThread v
      | _ => unwindSteps v fuel m.popFrame

/-- Fail with a value. -/
def unwind (m : Machine) (v : Val) : Progress := unwindSteps v (m.frames.length + 1) m

/-- Fail with a value, which a handler sees first. -/
def throw (m : Machine) (v : Val) : Progress :=
  match m.info.handler with
  | none => .unwind m v
  | some handler =>
      let place := max m.callPlace m.top
      m.pushCall { wanted := some 1, after := .handled, isHidden := true, blocks := true } place handler
        [v]

/-! ## Section 4: Returns -/

/-- Let results stand where the function was, as many as the caller wants, and go on in the caller. The
results are in places in a row. -/
def deliverPlaced (m : Machine) (first count : Nat) : Machine :=
  let func := m.frame.func
  match m.frame.wanted with
  | none => { (m.moveDown first func count).popFrame with top := func + count }
  | some wanted =>
      let m := m.moveDown first func (min count wanted)
      let m := m.clear (func + count) (wanted - count)
      { m.popFrame with top := func + wanted }

/-- What the caller does with the results of the running call. -/
def deliver (m : Machine) (values : List Val) : Progress :=
  let func := m.frame.func
  match m.frame.after with
  | .place =>
      let count := values.length
      let m := m.ensure (func + count)
      let m := m.putAll func values
      .run (m.deliverPlaced func count)
  | .operation opposite => m.popFrame.finishOperation opposite func (firstOf values)
  | .repeating top =>
      let m := m.popFrame
      .run { m with pc := m.pc - 1, top := top.getD m.top }
  | .native next =>
      let m := m.popFrame
      { m with top := m.frame.nativeTop }.perform (next values)
  | .guarded guard =>
      let m := m.popFrame
      { m with top := m.frame.nativeTop }.endGuard guard true values
  | .handled => .unwind m.popFrame (firstOf values)
  | .unwinding u => m.popFrame.closeNext u
  | .ignore =>
      let m := m.popFrame
      if m.frame.isCode then .run m else .act m (.finish [])
  | .entry => m.finishThread values

/-- Return values that are in places in a row. -/
def returnFrom (m : Machine) (first count : Nat) : Progress :=
  match m.frame.after with
  | .place => .run (m.deliverPlaced first count)
  | _ => m.deliver (m.values first count)

end Folio.Lua.Machine
