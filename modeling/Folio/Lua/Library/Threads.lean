import Folio.Lua.Library.Arguments

/-!
# The library of threads

Main definitions:
- `Lua.threadFunctions`: the functions
- `Lua.resumeStep`: the function that resumes a thread of its own
-/

namespace Folio.Lua

open Effect

/-- A thread among the arguments. -/
def Call.thread (c : Call) (i : Nat) : Except CallFault Nat :=
  match c.arg i with
  | .thread id => .ok id
  | _ => Call.expected i "coroutine"

/-- Make a thread. -/
def threadCreate : String × Native :=
  native "create" (fun c => c.function 1) fun f => fun m => (.spawn f fun t => finish [t], m)

/-- Resume a thread. -/
def threadResume : String × Native :=
  native "resume" (fun c => do return (← c.thread 1, c.args.drop 1)) fun (t, args) => fun m =>
    (.resume t args fun ok vs => finish (.bool ok :: vs), m)

/-- Stop the running thread. -/
def threadYield : String × Native := ("yield", fun _ _ args => fun m => (.yield args, m))

/-- Make a function that resumes a new thread. -/
def threadWrap : String × Native :=
  native "wrap" (fun c => c.function 1) fun f => fun m =>
    (.spawn f fun t => make (·.newFunction (.native resumeIndex [t])) fun g => finish [g], m)

/-- Fail with what a thread failed with. A text gets the place in the program in front. -/
def raiseAgain (v : Val) : Effect := fun m =>
  match v with
  | .str s => (.position 1 fun place => failWith (.str (place ++ s)), m)
  | v => failWith v m

/-- Resume the thread of a function, and fail if it fails. A thread that failed is ended, so that its
variables are closed. -/
def resumeStep : Native := fun _ state args => fun m =>
  match state with
  | [.thread t] =>
      (.status t fun before => fun m =>
        (.resume t args fun ok vs => fun m =>
          if ok then finish vs m
          else
            (.status t fun after => fun m =>
              if before = .suspended && after = .dead then
                (.closeThread t fun _ vs => raiseAgain (firstOf vs), m)
              else raiseAgain (firstOf vs) m, m), m), m)
  | _ => finish [] m

/-- The status of a thread. -/
def threadStatus : String × Native :=
  native "status" (fun c => c.thread 1) fun t => fun m =>
    (.status t fun status => finish [.ofText status.name], m)

/-- The running thread, and whether it is the first one. -/
def threadRunning : String × Native :=
  ("running", fun _ _ _ => fun m => (.running fun t isMain => finish [.thread t, .bool isMain], m))

/-- Whether a thread can stop: the running one if none is given. -/
def threadCanYield : String × Native :=
  native "isyieldable" (fun c => if c.args.isEmpty then .ok none else (c.thread 1).map some)
    fun thread => fun m =>
      match thread with
      | some t => (.yieldable t fun answer => finish [.bool answer], m)
      | none => (.running fun t _ => fun m => (.yieldable t fun answer => finish [.bool answer], m), m)

/-- End a thread; tell what it, or its end, failed with. -/
def threadClose : String × Native :=
  native "close" (fun c => c.thread 1) fun t => fun m =>
    (.status t fun status => fun m =>
      match status with
      | .suspended | .dead =>
          (.closeThread t fun ok vs => finish (if ok then [.bool true] else [.bool false, firstOf vs]), m)
      | status => raise (Bytes.ofText ("cannot close a " ++ status.name ++ " coroutine")) m, m)

/-- The functions of threads. -/
def threadFunctions : List (String × Native) :=
  [threadCreate, threadResume, threadYield, threadWrap, threadRunning, threadCanYield, threadClose,
    threadStatus]

end Folio.Lua
