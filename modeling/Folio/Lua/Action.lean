import Folio.Lua.Memory
import Folio.Lua.Naming

/-!
# Actions

A running function of the library changes the memory by itself. For all else it acts: it returns,
fails, calls another function or switches to another thread. An action that expects an answer says how
to go on with it.

Main definitions:
- `Lua.Action`, `Lua.Effect`
- `Lua.Native`: a function of the library
- `Lua.callValue`, `Lua.raise`, `Lua.raiseHere`
-/

namespace Folio.Lua

/-- Whether a thread can be resumed. -/
inductive ThreadStatus where
  | suspended
  | running
  /-- The thread resumed another one. -/
  | normal
  | dead
deriving DecidableEq, Inhabited

/-- The name of a status. -/
def ThreadStatus.name : ThreadStatus → String
  | .suspended => "suspended"
  | .running => "running"
  | .normal => "normal"
  | .dead => "dead"

/-- What a running function does next. -/
inductive Action where
  /-- Return values. -/
  | finish (values : List Val)
  /-- Fail with a value. -/
  | fail (value : Val)
  /-- Call a value. -/
  | call (f : Val) (args : List Val) (next : List Val → Memory → Action × Memory)
  /-- Call a value during whose call the thread can stop. -/
  | visit (f : Val) (args : List Val) (next : List Val → Memory → Action × Memory)
  /-- Call a value; go on with whether it returned, and with its values or what it failed with, after
  a handler if there is one. -/
  | protect (handler : Option Val) (f : Val) (args : List Val)
      (next : Bool → List Val → Memory → Action × Memory)
  /-- Ask for the place in a program of a function that was called, the running one counting as zero. -/
  | position (level : Nat) (next : Bytes → Memory → Action × Memory)
  /-- Ask under which name the running function was called. -/
  | calledAs (next : Option Naming → Memory → Action × Memory)
  /-- Ask how many calls the program around cannot see. -/
  | depth (next : Nat → Memory → Action × Memory)
  /-- Make a thread that runs a function. -/
  | spawn (f : Val) (next : Val → Memory → Action × Memory)
  /-- Run a thread until it returns, fails or yields. -/
  | resume (thread : Nat) (args : List Val) (next : Bool → List Val → Memory → Action × Memory)
  /-- Stop the running thread, with values for the one that resumed it, and return what it is resumed
  with. -/
  | yield (values : List Val)
  /-- Ask for the running thread, and whether it is the first one. -/
  | running (next : Nat → Bool → Memory → Action × Memory)
  /-- Ask for the status of a thread. -/
  | status (thread : Nat) (next : ThreadStatus → Memory → Action × Memory)
  /-- Ask whether a thread could yield. -/
  | yieldable (thread : Nat) (next : Bool → Memory → Action × Memory)
  /-- End a thread; go on with whether that went well, and what it or its end failed with. -/
  | closeThread (thread : Nat) (next : Bool → List Val → Memory → Action × Memory)
  /-- Clean the memory up. -/
  | collect (next : Memory → Action × Memory)
deriving Inhabited

/-- What is done with a memory: the next action, and the memory as it is then. -/
abbrev Effect := Memory → Action × Memory

/-- A function of the library: given its own name in memory, its values and the arguments. -/
abbrev Native := Nat → List Val → List Val → Effect

namespace Effect

/-- Return values. -/
def finish (values : List Val) : Effect := fun m => (.finish values, m)

/-- Go on with something in memory. -/
def read {α : Type} (f : Memory → α) (next : α → Effect) : Effect := fun m => next (f m) m

/-- Change the memory. -/
def change (f : Memory → Memory) (next : Effect) : Effect := fun m => next (f m)

/-- Make something in memory. -/
def make {α : Type} (f : Memory → α × Memory) (next : α → Effect) : Effect := fun m =>
  let (a, m) := f m
  next a m

end Effect

open Effect

/-- Fail with a value. -/
def failWith (v : Val) : Effect := fun m => (.fail v, m)

/-- Fail with a message. -/
def raiseHere (message : Bytes) : Effect := failWith (.str message)

/-- Fail with a message after the place where the running function was called. -/
def raise (message : Bytes) : Effect := fun m =>
  (.position 1 fun place => fun m => (.fail (.str (place ++ message)), m), m)

/-- Call a value. -/
def callValue (f : Val) (args : List Val) (next : List Val → Effect) : Effect := fun m =>
  (.call f args next, m)

/-- Call a value during whose call the thread can stop. -/
def visitValue (f : Val) (args : List Val) (next : List Val → Effect) : Effect := fun m =>
  (.visit f args next, m)

/-- The first of some values. -/
def firstOf (values : List Val) : Val := values.headD .nil

/-- As many values as asked for: surplus ones go, missing ones are `nil`. -/
def adjust (count : Nat) (values : List Val) : List Val :=
  values.take count ++ List.replicate (count - values.length) .nil

end Folio.Lua
