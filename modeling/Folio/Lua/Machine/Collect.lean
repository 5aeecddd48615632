import Folio.Lua.Machine.State

/-!
# Cleaning up memory

What a program cannot reach any more goes: it leaves the weak tables that it is in, and is told before
if it asked for that. Things that refer to each other but are not reached from elsewhere go too.

A weak table does not keep its values, or its keys. A key that is weak keeps the value of its entry only
if it is reached itself.

Main definitions:
- `Lua.Marks`: what was reached
- `Lua.Machine.collect`: a machine without what cannot be reached, and whom to tell
-/

namespace Folio.Lua

/-! ## Section 1: Marks -/

/-- What was reached. -/
structure Marks where
  tables : Array Bool
  functions : Array Bool
  cells : Array Bool
  threads : Array Bool
  /-- What was reached, but not what it refers to. -/
  work : List Val := []
  /-- The tables whose keys are weak, and those whose values are. -/
  weakKeys : List Nat := []
  weakValues : List Nat := []
  /-- How many bytes are in use. -/
  bytes : Nat := 0

namespace Marks

/-- Mark a value. -/
def value (k : Marks) (v : Val) : Marks :=
  match v with
  | .table id =>
      if k.tables.getD id true then k
      else { k with tables := k.tables.setIfInBounds id true, work := v :: k.work }
  | .function id =>
      if k.functions.getD id true then k
      else { k with functions := k.functions.setIfInBounds id true, work := v :: k.work }
  | .thread id =>
      if k.threads.getD id true then k
      else { k with threads := k.threads.setIfInBounds id true, work := v :: k.work }
  | .str s => { k with bytes := k.bytes + 24 + s.size }
  | _ => k

/-- Mark values. -/
def values (k : Marks) (vs : List Val) : Marks := vs.foldl value k

/-- Whether a value stays. What has no identity stays always. -/
def keeps (k : Marks) (v : Val) : Bool :=
  match v with
  | .table id => k.tables.getD id true
  | .function id => k.functions.getD id true
  | .thread id => k.threads.getD id true
  | _ => true

end Marks

namespace Machine

/-! ## Section 2: References -/

/-- The stack of a thread, up to what is in use. -/
def stackOf (m : Machine) (thread : Nat) : List Val :=
  if thread = m.thread then
    let top := max m.top (if m.frame.isCode then m.frame.limit else m.frame.nativeTop)
    (m.stack.extract 0 top).toList
  else
    let t := m.threads.getD thread default
    let top := max t.top (if t.frame.isCode then t.frame.limit else t.frame.nativeTop)
    (t.stack.extract 0 top).toList

/-- Which of the keys and values of a table are weak. -/
def weakness (m : Machine) (t : Table) : Bool × Bool :=
  match t.metatable with
  | none => (false, false)
  | some mt =>
      match (m.memory.table mt).get (Memory.eventKey .mode) with
      | .str s => (s.chars.contains 'k', s.chars.contains 'v')
      | _ => (false, false)

/-- Mark what a table refers to. -/
def markTable (m : Machine) (k : Marks) (id : Nat) : Marks :=
  let t := m.memory.table id
  let k := { k with bytes := k.bytes + t.bytes }
  let k := match t.metatable with
    | some mt => k.value (.table mt)
    | none => k
  match m.weakness t with
  | (false, false) =>
      let k := t.items.foldl Marks.value k
      t.nodes.foldl (fun k node =>
        if node.value.isNil then k else (k.value node.key).value node.value) k
  | (true, false) =>
      let k := t.items.foldl Marks.value k
      { k with weakKeys := id :: k.weakKeys }
  | (false, true) =>
      let k := t.nodes.foldl (fun k node => if node.value.isNil then k else k.value node.key) k
      { k with weakValues := id :: k.weakValues }
  | (true, true) => { k with weakKeys := id :: k.weakKeys, weakValues := id :: k.weakValues }

/-- Mark what a cell holds. -/
def markCell (m : Machine) (k : Marks) (cell : Nat) : Marks :=
  if k.cells.getD cell true then k
  else
    let k := { k with cells := k.cells.setIfInBounds cell true, bytes := k.bytes + 40 }
    match m.memory.cells.getD cell default with
    | .closed v => k.value v
    | .inStack _ _ => k.value (m.cellValue cell)

/-- Mark what a value refers to. -/
def markInside (m : Machine) (k : Marks) (v : Val) : Marks :=
  match v with
  | .table id => m.markTable k id
  | .function id =>
      let k := { k with bytes := k.bytes + 48 }
      match m.memory.functions.getD id default with
      | .closure _ cells => cells.foldl m.markCell k
      | .native _ state => k.values state
  | .thread id => { k.values (m.stackOf id) with bytes := k.bytes + 1000 }
  | _ => k

/-- Mark all that is reached. What there is bounds the steps. -/
def propagate (m : Machine) : Nat → Marks → Marks
  | 0, k => k
  | fuel + 1, k =>
      match k.work with
      | [] => k
      | v :: work => propagate m fuel (m.markInside { k with work } v)

/-- Mark the values of weak keys that are reached. Whether there were any. -/
def markEntries (m : Machine) (k : Marks) : Marks :=
  k.weakKeys.foldl (fun (k : Marks) id =>
    if k.weakValues.contains id then k
    else
      (m.memory.table id).nodes.foldl (fun (k : Marks) node =>
        if !node.value.isNil && k.keeps node.key then k.value node.value else k) k) k

/-- How many things there are. -/
def thingCount (m : Machine) : Nat :=
  m.memory.tables.size + m.memory.functions.size + m.threads.size + 1

/-- Mark all that is reached, also by way of weak keys. -/
def markAll (m : Machine) : Nat → Marks → Marks
  | 0, k => k
  | fuel + 1, k =>
      let k := m.markEntries (m.propagate (m.thingCount + 1) k)
      if k.work.isEmpty then k else markAll m fuel k

/-- What a program can reach by itself. -/
def roots (m : Machine) : List Val :=
  let memory := m.memory
  let tables := [some memory.globals, some memory.loaded, memory.stringMetatable, memory.fileMetatable,
    memory.listMetatable].filterMap id
  tables.map Val.table ++ [.thread m.thread, .thread 0] ++ m.stackOf m.thread
    ++ m.info.handler.toList

/-- No marks. -/
def noMarks (m : Machine) : Marks where
  tables := Array.replicate m.memory.tables.size false
  functions := Array.replicate m.memory.functions.size false
  cells := Array.replicate m.memory.cells.size false
  threads := Array.replicate m.threads.size false

/-! ## Section 3: What goes -/

/-- Take entries out of a table. -/
def clearEntries (memory : Memory) (id : Nat) (goes : Val → Val → Bool) : Memory :=
  memory.modifyTable id fun t => t.clear goes

/-- Take the values out of weak tables that were not reached. -/
def clearValues (k : Marks) (memory : Memory) : Memory :=
  k.weakValues.foldl (fun memory id => clearEntries memory id fun _ v => !k.keeps v) memory

/-- Take the keys out of weak tables that were not reached. -/
def clearKeys (k : Marks) (memory : Memory) : Memory :=
  k.weakKeys.foldl (fun memory id => clearEntries memory id fun key _ => !k.keeps key) memory

/-- The threads that wait for the running one. -/
def waitingThreads (m : Machine) : List Val :=
  ((List.range m.threads.size).filter fun i =>
    (m.threads.getD i default).info.status = .normal).map Val.thread

/-- Clean memory up. The tables that are told that they go stay this time, with what they refer to. -/
def collect (m : Machine) : List (Val × Val) × Machine :=
  let start := m.noMarks.values (m.roots ++ m.waitingThreads)
  let k := m.markAll (m.thingCount + 1) start
  let memory := clearValues k m.memory
  let gone := memory.finalizable.filter fun id => !k.keeps (.table id)
  let kept := memory.finalizable.filter fun id => k.keeps (.table id)
  let k := m.markAll (m.thingCount + 1) (k.values (gone.map Val.table))
  let memory := clearValues k (clearKeys k memory)
  let calls := gone.filterMap fun id =>
    match memory.handler (.table id) .collect with
    | .nil => none
    | f => some (f, Val.table id)
  let collector := { memory.collector with
    used := 0, kept := 23000 + k.bytes, limit := max 200000 k.bytes }
  (calls, { m with memory := { memory with finalizable := kept, collector } })

end Machine

end Folio.Lua
