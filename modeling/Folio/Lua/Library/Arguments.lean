import Folio.Lua.Operation

/-!
# Arguments

How functions of the library read their arguments. The message about a wrong argument names the
argument and the function: by the name under which it was called, or else by the name under which it is
found in the loaded modules.

Main definitions:
- `Lua.Call`: the arguments of a call
- `Lua.CallFault`: why a call fails
- `Lua.Call.str`, `Lua.Call.int`, `Lua.Call.number`, …: one argument
- `Lua.pureNative`, `Lua.readNative`, `Lua.native`: kinds of functions
-/

namespace Folio.Lua

open Effect

/-! ## Section 1: Faults -/

/-- The arguments of a call to a function, which is told by its name in memory. Arguments are counted
from one. -/
structure Call where
  self : Nat
  args : List Val

/-- Why a call fails. -/
inductive CallFault where
  /-- An argument is wrong. -/
  | argument (i : Nat) (message : Bytes)
  /-- An argument is of another type. -/
  | type (i : Nat) (expected : String)
  /-- The call is wrong for another reason. -/
  | failure (message : Bytes)
deriving Inhabited

namespace Call

/-- An argument, or nothing if there is none. -/
def arg? (c : Call) (i : Nat) : Option Val := c.args[i - 1]?

/-- An argument, or `nil` if there is none. -/
def arg (c : Call) (i : Nat) : Val := (c.arg? i).getD .nil

/-- The name of a function among the entries of a table. -/
def nameIn (t : Table) (f : Nat) : Option Bytes :=
  t.nodes.findSome? fun node =>
    match node.key, node.value with
    | .str name, .function g => if g = f then some name else none
    | _, _ => none

/-- The name of a function in the loaded modules. Global variables need no name of a module. -/
def moduleName? (m : Memory) (f : Nat) : Option Bytes :=
  (m.table m.loaded).nodes.findSome? fun node =>
    match node.key, node.value with
    | .str name, .function g => if g = f then some name else none
    | .str name, .table id =>
        (nameIn (m.table id) f).map fun field =>
          if name == Bytes.ofText "_G" then field else name ++ Bytes.ofText "." ++ field
    | _, _ => none

/-- The message about a wrong argument of a function that was called by a name. The object of a method
does not count as an argument. -/
def argumentText (naming : Option Naming) (m : Memory) (f i : Nat) (message : Bytes) : Bytes :=
  let about (i : Nat) (name : Bytes) : Bytes :=
    Bytes.ofText ("bad argument #" ++ toString i ++ " to '") ++ name ++ Bytes.ofText "' (" ++ message
      ++ Bytes.ofText ")"
  match naming with
  | none => about i ((moduleName? m f).getD (Bytes.ofText "?"))
  | some n =>
      if n.kind != "method" then about i n.name
      else if i = 1 then
        Bytes.ofText "calling '" ++ n.name ++ Bytes.ofText "' on bad self (" ++ message
          ++ Bytes.ofText ")"
      else about (i - 1) n.name

/-- Fail because of an argument. -/
def raiseArgument (c : Call) (i : Nat) (message : Bytes) : Effect := fun m =>
  (.calledAs fun naming => fun m =>
    let text := argumentText naming m c.self i message
    raise text m, m)

/-- What an argument is, for messages. -/
def gotText (m : Memory) : Option Val → Bytes
  | none => Bytes.ofText "no value"
  | some v =>
      match m.metafield v "__name", v with
      | .str s, _ => s
      | _, .null => Bytes.ofText "light userdata"
      | _, v => Bytes.ofText v.typeName

/-- Fail for a reason. -/
def raise (c : Call) (fault : CallFault) : Effect :=
  match fault with
  | .failure message => Lua.raise message
  | .argument i message => c.raiseArgument i message
  | .type i expected => fun m =>
      let message := Bytes.ofText (expected ++ " expected, got ") ++ gotText m (c.arg? i)
      c.raiseArgument i message m

/-! ## Section 2: Reading arguments -/

/-- Fail because of an argument. -/
def bad {α : Type} (i : Nat) (message : String) : Except CallFault α :=
  .error (.argument i (Bytes.ofText message))

/-- Fail because an argument is of another type. -/
def expected {α : Type} (i : Nat) (type : String) : Except CallFault α := .error (.type i type)

/-- Fail for another reason. -/
def fail {α : Type} (message : String) : Except CallFault α :=
  .error (.failure (Bytes.ofText message))

/-- An argument of any kind, which must be there. -/
def any (c : Call) (i : Nat) : Except CallFault Val :=
  match c.arg? i with
  | some v => .ok v
  | none => bad i "value expected"

/-- A value as a string that is an argument: a string, or a number as one. -/
def strOf (i : Nat) (v : Val) : Except CallFault Bytes :=
  match v.toStr? with
  | some s => .ok s
  | none => expected i "string"

/-- A string, or a number as one. -/
def str (c : Call) (i : Nat) : Except CallFault Bytes := strOf i (c.arg i)

/-- A number, or a string as one. -/
def number (c : Call) (i : Nat) : Except CallFault Number :=
  match (c.arg i).toNumber? with
  | some n => .ok n
  | none => expected i "number"

/-- A number as a double. -/
def float (c : Call) (i : Nat) : Except CallFault Float := (c.number i).map Number.toFloat

/-- A value as an integer that is an argument: an integer, or what equals one. -/
def intOf (i : Nat) (v : Val) : Except CallFault Int64 :=
  match v.toNumber? with
  | none => expected i "number"
  | some n =>
      match n.toInt? with
      | some k => .ok k
      | none => bad i "number has no integer representation"

/-- An integer, or what equals one. -/
def int (c : Call) (i : Nat) : Except CallFault Int64 := intOf i (c.arg i)

/-- Read the arguments from one on, each one with its number. What was read is in reverse. -/
def eachFrom {α : Type} (read : Nat → Val → Except CallFault α) :
    Nat → List Val → List α → Except CallFault (List α)
  | _, [], found => .ok found.reverse
  | i, v :: rest, found =>
      match read i v with
      | .error fault => .error fault
      | .ok a => eachFrom read (i + 1) rest (a :: found)

/-- Read the arguments from one on. -/
def each {α : Type} (c : Call) (first : Nat) (read : Nat → Val → Except CallFault α) :
    Except CallFault (List α) := eachFrom read first (c.args.drop (first - 1)) []

/-- A table, by its name in memory. -/
def table (c : Call) (i : Nat) : Except CallFault Nat :=
  match c.arg i with
  | .table id => .ok id
  | _ => expected i "table"

/-- A function. -/
def function (c : Call) (i : Nat) : Except CallFault Val :=
  match c.arg i with
  | .function id => .ok (.function id)
  | _ => expected i "function"

/-- Whether an argument is missing or `nil`. -/
def lacks (c : Call) (i : Nat) : Bool := (c.arg i).isNil

/-- An argument that can be left out. -/
def optional {α : Type} (c : Call) (i : Nat) (default : α) (read : Nat → Except CallFault α) :
    Except CallFault α :=
  if c.lacks i then .ok default else read i

/-- An integer that can be left out. -/
def optInt (c : Call) (i : Nat) (default : Int) : Except CallFault Int :=
  c.optional i default fun i => (c.int i).map Int64.toInt

/-- A string that is one of some names, which can be left out. -/
def option (c : Call) (i : Nat) (default : String) (names : List String) :
    Except CallFault String := do
  let name ← c.optional i (Bytes.ofText default) c.str
  match names.find? fun known => name == Bytes.ofText known with
  | some known => return known
  | none =>
      .error (.argument i (Bytes.ofText "invalid option '" ++ name ++ Bytes.ofText "'"))

/-- A value that is used as a list: a table, or something whose metatable has fields for some
events. -/
def list (c : Call) (m : Memory) (i : Nat) (events : List Event) : Except CallFault Val :=
  match c.arg i with
  | .table id => .ok (.table id)
  | v =>
      if (m.metatableOf v).isSome && events.all fun event => !(m.handler v event).isNil then .ok v
      else expected i "table"

end Call

/-! ## Section 3: Kinds of functions -/

/-- A function of its arguments alone. -/
def pureNative (name : String) (f : Call → Except CallFault (List Val)) : String × Native :=
  (name, fun self _ args =>
    let c : Call := ⟨self, args⟩
    match f c with
    | .ok values => finish values
    | .error fault => c.raise fault)

/-- A function of its arguments and of what is in memory. -/
def readNative (name : String) (f : Call → Memory → Except CallFault (List Val)) : String × Native :=
  (name, fun self _ args => fun m =>
    let c : Call := ⟨self, args⟩
    match f c m with
    | .ok values => finish values m
    | .error fault => c.raise fault m)

/-- A function that goes on with its arguments. -/
def native {α : Type} (name : String) (read : Call → Except CallFault α) (f : α → Effect) :
    String × Native :=
  (name, fun self _ args =>
    let c : Call := ⟨self, args⟩
    match read c with
    | .ok a => f a
    | .error fault => c.raise fault)

/-- A function that goes on with its arguments, which are read with regard to memory. -/
def memoryNative {α : Type} (name : String) (read : Call → Memory → Except CallFault α)
    (f : α → Effect) : String × Native :=
  (name, fun self _ args => fun m =>
    let c : Call := ⟨self, args⟩
    match read c m with
    | .ok a => f a m
    | .error fault => c.raise fault m)

/-! ## Section 4: Functions that iterate

Some functions of the library make functions that keep values of their own. Those stand at the
beginning of the library. -/

/-- The place of the function that goes on through a table. -/
def nextIndex : Nat := 0

/-- The place of the function that goes on through the items of a table. -/
def itemsIndex : Nat := 1

/-- The place of the function that goes on through the matches of a pattern. -/
def matchesIndex : Nat := 2

/-- The place of the function that resumes a thread. -/
def resumeIndex : Nat := 3

/-- The place of the function that goes on through the code points of a string. -/
def pointsIndex : Nat := 4

/-- The place of the function that goes on through the lines of a file. -/
def linesIndex : Nat := 5

end Folio.Lua
