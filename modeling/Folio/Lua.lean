import Folio.Compiler.Script
import Folio.Lua.Library
import Folio.Lua.Machine

/-!
# Lua

The language of script compilers. A runtime holds one program and the machine on which it runs.

The values of documents become values of programs: a list or an object becomes a table, null a value
of its own, and a whole number that does not fit a double.

Main definitions:
- `Lua.Runtime`
- `Lua.ofValue`: a value of a document
- `Lua.language`: the language as script compilers use it
-/

namespace Folio.Lua

/-! ## Section 1: Values of documents -/

mutual
/-- A value of a document as a value of programs. -/
def ofValue : Value → Memory → Val × Memory
  | .null, m => (.null, m)
  | .bool b, m => (.bool b, m)
  | .int n, m =>
      match fitInt? n with
      | some n => (.int n, m)
      | none => (.float (Binary64.ofInt n), m)
  | .float x, m => (.float x, m)
  | .str s, m => (.ofText s, m)
  | .list items, m =>
      let (items, m) := ofValues items m
      m.newTable { Table.ofItems items.toArray with metatable := m.listMetatable }
  | .object entries, m =>
      let (t, m) := ofEntries entries {} m
      m.newTable t

/-- Values of a document as values of programs. -/
def ofValues : List Value → Memory → List Val × Memory
  | [], m => ([], m)
  | v :: rest, m =>
      let (v, m) := ofValue v m
      let (rest, m) := ofValues rest m
      (v :: rest, m)

/-- A table with the entries of an object added. -/
def ofEntries : List (String × Value) → Table → Memory → Table × Memory
  | [], t, m => (t, m)
  | (name, v) :: rest, t, m =>
      let (v, m) := ofValue v m
      ofEntries rest (t.setName name v) m
end

/-- The text that a value is for a compiler: a string in UTF-8 or a number; nothing for `nil`. -/
def resultText (v : Val) : Except ScriptFailure (Option String) :=
  match v with
  | .nil => .ok none
  | v =>
      match v.toStr?.bind Bytes.text? with
      | some s => .ok (some s)
      | none => .error {}

/-! ## Section 2: Runtimes -/

/-- A program and the machine on which it runs. -/
structure Runtime where
  program : Val
  machine : Machine

/-- Run something on the machine of a runtime and keep the machine after it. -/
def Runtime.run (run : Val → Machine → Machine × Except Val (List Val)) :
    RuntimeStep Runtime (List Val) := do
  -- the state gives its machine away, so that the run can change it in place
  let ⟨program, machine⟩ ← modifyGet fun r => (r, { r with machine := {} })
  let (machine, result) := run program machine
  set { program, machine : Runtime }
  match result with
  | .ok values => return values
  | .error _ => throw {}

/-- Run a computation in a runtime. -/
def Runtime.compute (c : Effect) : RuntimeStep Runtime (List Val) :=
  Runtime.run fun _ machine => machine.runOutside c

/-- A fresh runtime with a program. A text that is no program in letters is none, and a zero byte
cannot be in its name. -/
def Runtime.load (name source : String) : Option Runtime :=
  if name.toList.contains '\x00' || source.toList.head? = some binaryMark then none
  else
    match compile (chunkTitle (Bytes.ofText name)) (Bytes.ofText source) 0 with
    | .error _ => none
    | .ok p =>
        let m := Memory.initial
        let (program, memory) := makeProgram p (.table m.globals) m
        some { program, machine := { library, memory } }

/-- Bind a global variable, as an assignment would. -/
def Runtime.setGlobal (name : String) (value : Option Value) : RuntimeStep Runtime Unit := do
  let assign : Effect := fun m =>
    let globals : Val := .table m.globals
    let (v, m) := match value with
      | some v => ofValue v m
      | none => (.nil, m)
    setIndex globals (.ofText name) v (Effect.finish []) m
  let _ ← Runtime.compute assign

/-- The language as script compilers use it. -/
def language : ScriptLanguage Runtime where
  load := Runtime.load
  setGlobal := Runtime.setGlobal
  call := do
    let values ← Runtime.run fun program machine => machine.call program []
    liftExcept (resultText (firstOf values))
  globalText? name := do
    let read : Effect := fun m =>
      index (.table m.globals) (.ofText name) (fun v => Effect.finish [v]) m
    let values ← Runtime.compute read
    liftExcept (resultText (firstOf values))

end Folio.Lua
