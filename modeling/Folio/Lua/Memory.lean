import Folio.Lua.Instruction
import Folio.Lua.Table

/-!
# Memory

What values name: tables, functions and files. Local variables that functions inside use are cells: as
long as the variable is in scope its value is in a register, afterwards in the cell.

Some fields of metatables change what operations on a value do.

Main definitions:
- `Lua.Memory`
- `Lua.Memory.metafield`: a field of the metatable of a value
- `Lua.Memory.findIndex`, `Lua.Memory.findNewIndex`: how a field is read and set
-/

namespace Folio.Lua

/-! ## Section 1: What values name -/

/-- A variable that functions inside use. -/
inductive Cell where
  /-- The value is in a place of the stack of a thread. -/
  | inStack (thread place : Nat)
  | closed (v : Val)
deriving Inhabited

/-- What a function is. -/
inductive FunctionObject where
  /-- A function of a program, with its outer variables. -/
  | closure (prototype : Prototype) (cells : Array Nat)
  /-- A function of the library, by its place in it, with values of its own. -/
  | native (index : Nat) (state : List Val)
deriving Inhabited

/-- An open file: the name of what it reads and writes, and where it is. -/
structure OpenFile where
  name : Bytes
  place : Nat := 0
  reads : Bool := true
  writes : Bool := false
  appends : Bool := false
  isClosed : Bool := false
  /-- Whether the file stands for what surrounds the program. -/
  isStandard : Bool := false
deriving Inhabited

/-- How memory is cleaned up. -/
structure Collector where
  isStopped : Bool := false
  isGenerational : Bool := false
  pause : Nat := 200
  stepFactor : Nat := 100
  /-- How many bytes were used since the last time, and how many may be. -/
  used : Nat := 0
  limit : Nat := 200000
  /-- How many bytes were in use after the last time. -/
  kept : Nat := 23000
  /-- Whether memory is being cleaned up. -/
  isBusy : Bool := false
deriving Inhabited

theorem zero_lt_size_default : 0 < (#[default] : Array Table).size := Nat.zero_lt_succ 0

/-- What values name. -/
structure Memory where
  tables : Array Table := #[default]
  functions : Array FunctionObject := #[]
  cells : Array Cell := #[]
  files : Array OpenFile := #[]
  /-- The contents of files by their names. -/
  disk : List (Bytes × Bytes) := []
  /-- Functions that were written as texts. -/
  dumped : Array Prototype := #[]
  /-- The table of global variables. -/
  globals : Nat := 0
  /-- The table of loaded modules. -/
  loaded : Nat := 0
  /-- The metatable of strings. -/
  stringMetatable : Option Nat := none
  /-- The metatable of files. -/
  fileMetatable : Option Nat := none
  /-- The metatable of the lists of documents. -/
  listMetatable : Option Nat := none
  /-- The files that are read and written without a name. -/
  input : Nat := 0
  output : Nat := 1
  /-- The state of the generator of random numbers. -/
  seed : UInt64 × UInt64 × UInt64 × UInt64 := (0, 0, 0, 0)
  /-- The tables that are told before they go, the last one first. -/
  finalizable : List Nat := []
  collector : Collector := {}
  hasGlobals : globals < tables.size := by exact zero_lt_size_default

instance : Inhabited Memory := ⟨{}⟩

/-- How many bytes a table takes. -/
def Table.bytes (t : Table) : Nat := 56 + 16 * t.items.size + 40 * t.nodes.size

namespace Memory

/-- A table by its name. -/
def table (m : Memory) (id : Nat) : Table := m.tables.getD id default

/-- Change a table. -/
def modifyTable (m : Memory) (id : Nat) (f : Table → Table) : Memory :=
  { m with
    tables := m.tables.modify id f
    hasGlobals := by rw [Array.size_modify]; exact m.hasGlobals }

/-- Count bytes that are used. -/
def use (m : Memory) (bytes : Nat) : Memory :=
  { m with collector := { m.collector with used := m.collector.used + bytes } }

/-- Make a table. -/
def newTable (m : Memory) (t : Table) : Val × Memory :=
  let id := m.tables.size
  let m := { m with
    tables := m.tables.push t
    hasGlobals := by rw [Array.size_push]; exact Nat.lt_succ_of_lt m.hasGlobals }
  (.table id, m.use t.bytes)

/-- Make a function. -/
def newFunction (m : Memory) (f : FunctionObject) : Val × Memory :=
  let id := m.functions.size
  (.function id, ({ m with functions := m.functions.push f } : Memory).use 48)

/-- Set a field of a table, without metatables. The bytes that it takes are counted. -/
def setField (m : Memory) (id : Nat) (key value : Val) : Memory :=
  let before := (m.table id).bytes
  let m := m.modifyTable id fun t => t.set key value
  let after := (m.table id).bytes
  if after > before then m.use (after - before) else m

/-- Set a global variable. -/
def setGlobal (m : Memory) (name : String) (v : Val) : Memory :=
  m.modifyTable m.globals fun t => t.setName name v

/-! ## Section 2: Metatables -/

/-- The metatable of a value. -/
def metatableOf (m : Memory) : Val → Option Nat
  | .table id => (m.table id).metatable
  | .str _ => m.stringMetatable
  | .file _ => m.fileMetatable
  | _ => none

/-- The field of metatables for an event. -/
def eventKey : Event → Val
  | .index => .str (Bytes.ofText "__index")
  | .newIndex => .str (Bytes.ofText "__newindex")
  | .collect => .str (Bytes.ofText "__gc")
  | .mode => .str (Bytes.ofText "__mode")
  | .length => .str (Bytes.ofText "__len")
  | .equal => .str (Bytes.ofText "__eq")
  | .less => .str (Bytes.ofText "__lt")
  | .lessEqual => .str (Bytes.ofText "__le")
  | .concat => .str (Bytes.ofText "__concat")
  | .call => .str (Bytes.ofText "__call")
  | .close => .str (Bytes.ofText "__close")
  | event => .str (Bytes.ofText ("__" ++ event.name))

/-- What the metatable of a value has for an event. -/
def handler (m : Memory) (v : Val) (event : Event) : Val :=
  match m.metatableOf v with
  | some id => (m.table id).nodeValue (eventKey event)
  | none => .nil

/-- A field of the metatable of a value. -/
def metafield (m : Memory) (v : Val) (name : String) : Val :=
  match m.metatableOf v with
  | some id => (m.table id).getName name
  | none => .nil

/-- What the metatable of one of two values has for an event. -/
def binaryHandler (m : Memory) (a b : Val) (event : Event) : Val :=
  match m.handler a event with
  | .nil => m.handler b event
  | f => f

/-- The name of the type of a value in messages: that of the metatable of a table or file, or the
type. -/
def typeText (m : Memory) (v : Val) : Bytes :=
  match v with
  | .table _ | .file _ =>
      match m.metafield v "__name" with
      | .str s => s
      | _ => Bytes.ofText v.typeName
  | _ => Bytes.ofText v.typeName

/-! ## Section 3: Fields -/

/-- How deeply values can refer to each other for their fields. -/
def maxChain : Nat := 2000

/-- How a field is read. -/
inductive Lookup where
  | value (v : Val)
  /-- A function gives it, for an object. -/
  | call (f object : Val)
  /-- A value has no fields. Whether it is the one that was asked. -/
  | noFields (v : Val) (isFirst : Bool)
  | endless

/-- How a field is read, through at most a number of values. -/
def findIndexFrom (m : Memory) (key : Val) : Nat → Bool → Val → Lookup
  | 0, _, _ => .endless
  | fuel + 1, isFirst, object =>
      match object with
      | .table id =>
          let t := m.table id
          match t.get key with
          | .nil =>
              match t.metatable with
              | none => .value .nil
              | some mt =>
                  match (m.table mt).nodeValue (eventKey .index) with
                  | .nil => .value .nil
                  | .function f => .call (.function f) object
                  | other => findIndexFrom m key fuel false other
          | v => .value v
      | _ =>
          match m.handler object .index with
          | .nil => .noFields object isFirst
          | .function f => .call (.function f) object
          | other => findIndexFrom m key fuel false other

/-- How a field is read. -/
def findIndex (m : Memory) (object key : Val) : Lookup := m.findIndexFrom key maxChain true object

/-- How a field is set. -/
inductive Assignment where
  /-- In a table. -/
  | inTable (id : Nat)
  /-- A function does it, for an object. -/
  | call (f object : Val)
  | noFields (v : Val) (isFirst : Bool)
  | endless

/-- How a field is set, through at most a number of values. -/
def findNewIndexFrom (m : Memory) (key : Val) : Nat → Bool → Val → Assignment
  | 0, _, _ => .endless
  | fuel + 1, isFirst, object =>
      match object with
      | .table id =>
          let t := m.table id
          match t.metatable with
          | none => .inTable id
          | some mt =>
              match t.get key with
              | .nil =>
                  match (m.table mt).nodeValue (eventKey .newIndex) with
                  | .nil => .inTable id
                  | .function f => .call (.function f) object
                  | other => findNewIndexFrom m key fuel false other
              | _ => .inTable id
      | _ =>
          match m.handler object .newIndex with
          | .nil => .noFields object isFirst
          | .function f => .call (.function f) object
          | other => findNewIndexFrom m key fuel false other

/-- How a field is set. -/
def findNewIndex (m : Memory) (object key : Val) : Assignment :=
  m.findNewIndexFrom key maxChain true object

/-- The memory after a field was read. -/
def touched (m : Memory) (object key : Val) : Memory :=
  match object with
  | .table id =>
      match (m.table id).hintAfterGet? key with
      | some hint => m.modifyTable id fun t => { t with hint }
      | none => m
  | _ => m

/-- The length of a table, and the memory after that. -/
def lengthOf (m : Memory) (id : Nat) : Nat × Memory :=
  let t := m.table id
  let (n, hint) := t.lengthAndHint
  (n, if hint = t.hint then m else m.modifyTable id fun t => { t with hint })

/-- The length of a table. -/
def length (m : Memory) (id : Nat) : Nat := (m.table id).length

/-! ## Section 4: Equality and order without calls -/

/-- What decides on the equality of two values that are not the same, if anything does. -/
def equalHandler (m : Memory) (a b : Val) : Val :=
  match a, b with
  | .table _, .table _ | .file _, .file _ => m.binaryHandler a b .equal
  | _, _ => .nil

/-! ## Section 5: Files -/

/-- The contents of a file. -/
def fileText? (m : Memory) (name : Bytes) : Option Bytes :=
  (m.disk.find? fun entry => entry.1 == name).map Prod.snd

/-- Set the contents of a file. -/
def writeFile (m : Memory) (name text : Bytes) : Memory :=
  { m with disk := (name, text) :: m.disk.filter fun entry => entry.1 != name }

/-- Remove a file. -/
def removeFile (m : Memory) (name : Bytes) : Memory :=
  { m with disk := m.disk.filter fun entry => entry.1 != name }

end Memory

end Folio.Lua
