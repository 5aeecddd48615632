import Folio.Lua.Machine.Return

/-!
# Threads

A thread that resumes another one waits until that one yields or ends.

Main definitions:
- `Lua.Machine.spawn`, `Lua.Machine.resume`, `Lua.Machine.yield`, `Lua.Machine.closeThread`
- `Lua.Machine.statusOf`, `Lua.Machine.canYield`
-/

namespace Folio.Lua.Machine

/-- What is known of a thread. -/
def infoOf (m : Machine) (thread : Nat) : ThreadInfo :=
  if thread = m.thread then m.info else (m.threads.getD thread default).info

/-- The status of a thread. -/
def statusOf (m : Machine) (thread : Nat) : ThreadStatus := (m.infoOf thread).status

/-- Whether a thread could yield. -/
def canYield (m : Machine) (thread : Nat) : Bool :=
  if thread = m.thread then m.blocked = 0 else (m.threads.getD thread default).blocked = 0

/-- Make a thread that runs a function. -/
def spawn (m : Machine) (f : Val) : Val × Machine :=
  let id := m.threads.size
  let t : Thread := { stack := #[.nil, f], top := 2 }
  (.thread id, { m with threads := m.threads.push t, memory := m.memory.use 1000 })

/-- Refuse to resume a thread. -/
def refuse (m : Machine) (next : Bool → List Val → Effect) (message : String) : Progress :=
  m.perform (next false [.ofText message])

/-- Let a thread wait for another one, which runs now. -/
def waitFor (m : Machine) (thread : Nat) (next : Bool → List Val → Effect) : Machine :=
  let resumer := m.thread
  let calls := m.calls
  let m := { m with info := { m.info with status := .normal, next } }
  let m := m.switchTo thread
  let info := m.info
  { m with
    calls := calls + 1
    blocked := 0
    info := { info with
      status := .running, resumer, baseCalls := calls + 1, epoch := info.epoch + 1 } }

/-- Resume a thread. -/
def resume (m : Machine) (thread : Nat) (args : List Val) (next : Bool → List Val → Effect) :
    Progress :=
  match m.statusOf thread with
  | .suspended =>
      if m.calls ≥ maxCalls then m.refuse next "C stack overflow"
      else
        let m := m.waitFor thread next
        if m.info.isStarted then m.deliver args
        else
          let f := m.stackAt 1
          let frame : Frame := { func := 0, base := 1, limit := 1, extra := 0, after := .entry }
          { m with frame, info := { m.info with isStarted := true } }.pushCall { after := .entry } 1 f args
  | .dead => m.refuse next "cannot resume dead coroutine"
  | _ => m.refuse next "cannot resume non-suspended coroutine"

/-- Stop the running thread. -/
def yield (m : Machine) (values : List Val) : Progress :=
  if m.blocked > 0 then
    m.failText (if m.thread = 0 then "attempt to yield from outside a coroutine"
      else "attempt to yield across a C-call boundary")
  else (m.setStatus .suspended).leaveThread true values

/-- End a thread: its variables are closed. -/
def closeThread (m : Machine) (thread : Nat) (next : Bool → List Val → Effect) : Progress :=
  let m := m.waitFor thread next
  let failure := m.info.failure
  let frame : Frame := { func := 0, base := 1, limit := 1, after := .entry }
  { m with frame, frames := [], calls := m.calls - 1, info := { m.info with handler := none } }.closeNext
    { level := 1, failure, guard := none }

end Folio.Lua.Machine
