import Folio.Lua.Action
import Folio.Lua.Fault

/-!
# States of the machine

A running program is a stack of values with frames on it, one for each call that has not returned. The
part of the stack between a function and the next one belongs to its call: registers, or the arguments
of a function of the library.

Each frame says what its caller does when the call returns.

Main definitions:
- `Lua.Frame`, `Lua.After`
- `Lua.Machine`: the running thread, the other threads and the memory
- `Lua.Progress`: what is to be done next
-/

namespace Folio.Lua

/-! ## Section 1: Frames -/

/-- A call whose failure is a result. -/
structure Guard where
  /-- The handler of failures around the call. -/
  handler : Option Val
  /-- How many calls there were that the program cannot see. -/
  calls : Nat
  blocked : Nat
  /-- Whether the call can be left and entered again by threads. -/
  yieldable : Bool
  next : Bool → List Val → Effect
deriving Inhabited

/-- Variables that are being closed after a failure, or at the end of a thread. -/
structure Unwinding where
  /-- Variables from this place on are closed. -/
  level : Nat
  /-- What the program failed with. -/
  failure : Option Val
  /-- The guard that goes on when all are closed; the end of the thread if there is none. -/
  guard : Option Guard
deriving Inhabited

/-- What a caller does when a call returns. -/
inductive After where
  /-- Take the results where the function was. -/
  | place
  /-- Finish the instruction, with the result or its opposite. -/
  | operation (opposite : Bool)
  /-- Repeat the instruction, which closes variables. For a return, the top of the stack. -/
  | repeating (top : Option Nat)
  /-- Go on in a function of the library. -/
  | native (next : List Val → Effect)
  | guarded (guard : Guard)
  /-- The call was that of a handler of failures. -/
  | handled
  | unwinding (u : Unwinding)
  /-- The results do not count. -/
  | ignore
  /-- The call is the first one of its thread. -/
  | entry
deriving Inhabited

/-- A call that has not returned. -/
structure Frame where
  /-- The place of the function on the stack. -/
  func : Nat
  /-- The place of the first register. -/
  base : Nat
  /-- The place behind the part of the stack that belongs to the call. -/
  limit : Nat
  /-- How many results the caller wants. -/
  wanted : Option Nat := none
  /-- Whether the function is one of a program. -/
  isCode : Bool := false
  prototype : Prototype := default
  code : Array Instruction := #[]
  constants : Array Val := #[]
  cells : Array Nat := #[]
  /-- The next instruction, while another call runs. -/
  pc : Nat := 0
  /-- How many further arguments there are, or arguments of a function of the library. -/
  extra : Nat := 0
  /-- Whether the call took the place of another one. -/
  isTail : Bool := false
  after : After := .place
  /-- How many calls that the program cannot see this one counts for, in which run of the thread. -/
  cost : Nat := 0
  epoch : Nat := 0
  /-- Whether the thread cannot yield during the call. -/
  blocks : Bool := false
deriving Inhabited

/-- The top of the stack in a call of a function of the library. -/
def Frame.nativeTop (f : Frame) : Nat := f.func + 1 + f.extra

/-! ## Section 2: Threads -/

/-- What belongs to a thread, besides its stack. -/
structure ThreadInfo where
  status : ThreadStatus := .suspended
  /-- The thread that resumed this one. -/
  resumer : Nat := 0
  /-- What is called with the value of a failure. -/
  handler : Option Val := none
  /-- Whether the stack was too large, and is larger to handle that. -/
  isOverflown : Bool := false
  /-- How often the thread was resumed. -/
  epoch : Nat := 0
  /-- How many calls that the program cannot see there were when it was resumed. -/
  baseCalls : Nat := 0
  /-- What the thread failed with. -/
  failure : Option Val := none
  /-- Whether the thread runs its first function already. -/
  isStarted : Bool := false
  /-- How a thread goes on that waits for another one. -/
  next : Bool → List Val → Effect := fun _ _ => Effect.finish []
deriving Inhabited

/-- A thread that does not run. -/
structure Thread where
  stack : Array Val := #[]
  top : Nat := 0
  pc : Nat := 0
  frame : Frame := default
  frames : List Frame := []
  openCells : List (Nat × Nat) := []
  closing : List Nat := []
  calls : Nat := 0
  blocked : Nat := 0
  info : ThreadInfo := {}
deriving Inhabited

/-- A running program. -/
structure Machine where
  /-- The functions of the library. -/
  library : Array Native := #[]
  memory : Memory := {}
  /-- The stack of the running thread. -/
  stack : Array Val := #[]
  /-- The place behind the last value on the stack, where the number of values is open. -/
  top : Nat := 0
  /-- The next instruction. -/
  pc : Nat := 0
  frame : Frame := default
  /-- The frames of the callers, the innermost one first. -/
  frames : List Frame := []
  /-- The places on the stack with the cells that are there, the highest one first. -/
  openCells : List (Nat × Nat) := []
  /-- The places of variables to be closed, the highest one first. -/
  closing : List Nat := []
  /-- How many calls are running that the program cannot see. -/
  calls : Nat := 0
  /-- How many calls are running during which the thread cannot yield. -/
  blocked : Nat := 0
  info : ThreadInfo := {}
  /-- The running thread. -/
  thread : Nat := 0
  /-- All threads. The entry of the running one is out of date. -/
  threads : Array Thread := #[{}]
deriving Inhabited

/-- What is to be done next. -/
inductive Progress where
  /-- Run the next instruction. -/
  | run (m : Machine)
  /-- Do what a function of the library asks for. -/
  | act (m : Machine) (action : Action)
  /-- Fail with a value, which a handler sees first. -/
  | throw (m : Machine) (v : Val)
  /-- Fail with a value. -/
  | unwind (m : Machine) (v : Val)
  | done (m : Machine) (result : Except Val (List Val))

namespace Machine

/-! ## Section 3: The stack -/

/-- The value at a place. -/
@[inline] def stackAt (m : Machine) (place : Nat) : Val := m.stack.getD place .nil

/-- The value in a register. -/
@[inline] def reg (m : Machine) (r : Nat) : Val := m.stack.getD (m.frame.base + r) .nil

/-- Set a register. -/
@[inline] def setReg (m : Machine) (r : Nat) (v : Val) : Machine :=
  { m with stack := m.stack.setIfInBounds (m.frame.base + r) v }

/-- Set a place. -/
@[inline] def put (m : Machine) (place : Nat) (v : Val) : Machine :=
  { m with stack := m.stack.setIfInBounds place v }

/-- Make room for a number of values, with some more for calls. -/
def ensure (m : Machine) (size : Nat) : Machine :=
  let needed := size + 16
  if m.stack.size ≥ needed then m
  else
    let more := max needed (2 * m.stack.size) - m.stack.size
    { m with stack := m.stack ++ Array.replicate more .nil }

/-- Set places in a row. -/
def putAll (m : Machine) : Nat → List Val → Machine
  | _, [] => m
  | place, v :: rest => (m.put place v).putAll (place + 1) rest

/-- Set places in a row to `nil`. -/
def clear (m : Machine) : Nat → Nat → Machine
  | _, 0 => m
  | place, count + 1 => (m.put place .nil).clear (place + 1) count

/-- Move values to lower places. -/
def moveDown (m : Machine) (source target : Nat) : Nat → Machine
  | 0 => m
  | count + 1 => (m.put target (m.stackAt source)).moveDown (source + 1) (target + 1) count

/-- Values in a row. -/
def values (m : Machine) (first count : Nat) : List Val :=
  (m.stack.extract first (first + count)).toList

/-! ## Section 4: Outer variables -/

/-- The value of a cell. -/
def cellValue (m : Machine) (cell : Nat) : Val :=
  match m.memory.cells.getD cell default with
  | .closed v => v
  | .inStack thread place =>
      if thread = m.thread then m.stackAt place
      else ((m.threads[thread]?).bind fun t => t.stack[place]?).getD .nil

/-- Set the value of a cell. -/
def setCell (m : Machine) (cell : Nat) (v : Val) : Machine :=
  match m.memory.cells.getD cell default with
  | .closed _ =>
      { m with memory := { m.memory with cells := m.memory.cells.setIfInBounds cell (.closed v) } }
  | .inStack thread place =>
      if thread = m.thread then m.put place v
      else
        { m with threads := m.threads.modify thread fun t =>
            { t with stack := t.stack.setIfInBounds place v } }

/-- The value of an outer variable. -/
@[inline] def outer (m : Machine) (place : Nat) : Val := m.cellValue (m.frame.cells.getD place 0)

/-- A cell among those of places, which are in falling order; where it stands or would stand. -/
def findCell (place : Nat) : List (Nat × Nat) → Option Nat
  | [] => none
  | (p, cell) :: rest => if p = place then some cell else if p < place then none else findCell place rest

/-- Add a cell to those of places. -/
def insertCell (place cell : Nat) : List (Nat × Nat) → List (Nat × Nat)
  | [] => [(place, cell)]
  | (p, c) :: rest =>
      if p > place then (p, c) :: insertCell place cell rest else (place, cell) :: (p, c) :: rest

/-- The cell of a place of the stack. -/
def cellAt (m : Machine) (place : Nat) : Nat × Machine :=
  match findCell place m.openCells with
  | some cell => (cell, m)
  | none =>
      let cell := m.memory.cells.size
      (cell,
        { m with
          memory := { m.memory with cells := m.memory.cells.push (.inStack m.thread place) }
          openCells := insertCell place cell m.openCells })

/-- Let cells keep their values, for the places from one on. The number of cells bounds the steps. -/
def closeCellsSteps (level : Nat) : Nat → Machine → Machine
  | 0, m => m
  | fuel + 1, m =>
      match m.openCells with
      | (place, cell) :: rest =>
          if place ≥ level then
            let v := m.stackAt place
            closeCellsSteps level fuel
              { m with
                openCells := rest
                memory := { m.memory with cells := m.memory.cells.setIfInBounds cell (.closed v) } }
          else m
      | [] => m

/-- Let cells keep their values, for the places from one on. -/
def closeCells (m : Machine) (level : Nat) : Machine :=
  match m.openCells with
  | [] => m
  | cells => closeCellsSteps level cells.length m

/-! ## Section 5: Failures -/

/-- The instruction that is running. -/
def currentPlace (m : Machine) : Nat := m.pc - 1

/-- The beginning of a message: the place in the program, if a function of a program runs. -/
def here (m : Machine) : Bytes :=
  if m.frame.isCode then
    let p := m.frame.prototype
    placeText p.title (p.lineAt m.currentPlace)
  else ByteArray.empty

/-- Fail with a message. -/
def fail (m : Machine) (message : Bytes) : Progress := .throw m (.str (m.here ++ message))

/-- Fail with a message. -/
def failText (m : Machine) (message : String) : Progress := m.fail (Bytes.ofText message)

/-- Where a value is, for messages. -/
inductive Spot where
  | register (r : Nat)
  | outer (place : Nat)
  | nowhere

/-- The name of a value in a message. -/
def spotText (m : Machine) (spot : Spot) : Bytes :=
  if !m.frame.isCode then ByteArray.empty
  else
    let p := m.frame.prototype
    match spot with
    | .nowhere => ByteArray.empty
    | .outer place => (Naming.mk "upvalue" (Bytes.ofText (p.outerName place))).text
    | .register r =>
        match p.nameOf? m.currentPlace r with
        | some n => n.text
        | none => ByteArray.empty

/-- Fail because a value does not support an operation. -/
def failType (m : Machine) (operation : String) (v : Val) (what : Bytes) : Progress :=
  m.fail (Bytes.ofText ("attempt to " ++ operation ++ " a ") ++ m.memory.typeText v
    ++ Bytes.ofText " value" ++ what)

/-- Fail because a value at a spot does not support an operation. -/
def failSpot (m : Machine) (operation : String) (v : Val) (spot : Spot) : Progress :=
  m.failType operation v (m.spotText spot)

/-- How many calls can be running that the program cannot see, and how many more while a failure is
handled. -/
def maxCalls : Nat := 200

/-- The calls at which even handling a failure is given up. -/
def maxHandlerCalls : Nat := 220

/-- The message when handling a failure fails again and again. -/
def handlerFailure : Val := .ofText "error in error handling"

/-- The largest stack. -/
def maxStack : Nat := 1000000

/-- How much larger the stack can be while a failure is handled. -/
def handlerStack : Nat := 200

/-- Whether there is room on the stack for a number of values; otherwise what to do. -/
def checkStack (m : Machine) (count : Nat) : Option Progress :=
  let size := m.top + count
  if m.info.isOverflown then
    if size ≥ maxStack + handlerStack then some (.unwind m handlerFailure) else none
  else if size > maxStack then
    some (({ m with info := { m.info with isOverflown := true } } : Machine).failText "stack overflow")
  else none

end Machine

end Folio.Lua
