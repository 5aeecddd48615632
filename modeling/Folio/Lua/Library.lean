import Folio.Lua.Library.Base
import Folio.Lua.Library.Files
import Folio.Lua.Library.Mathematics
import Folio.Lua.Library.Modules
import Folio.Lua.Library.Operators
import Folio.Lua.Library.Packing
import Folio.Lua.Library.Points
import Folio.Lua.Library.Random
import Folio.Lua.Library.Tables
import Folio.Lua.Library.Threads

/-!
# The library

All functions that programs find, and the memory in which they find them. Nothing in it reaches outside
of a program.

Main definitions:
- `Lua.library`: the functions by their places
- `Lua.Memory.initial`: the memory before a program runs
-/

namespace Folio.Lua

/-! ## Section 1: Groups -/

/-- The functions that stand at the beginning of the library. -/
def steps : List (String × Native) :=
  [("next", nextStep), ("", itemsStep), ("", matchesStep), ("", resumeStep), ("", pointsStep),
    ("", linesStep)]

/-- The groups of functions that are global variables by themselves, in tables that are global
variables, and in other tables. -/
def groups : List (String × List (String × Native)) :=
  [("_G", steps ++ baseFunctions ++ programFunctions ++ [requireFunction]),
    ("string", stringFunctions ++ packFunctions),
    ("table", tableFunctions),
    ("math", mathFunctions ++ randomFunctions),
    ("utf8", pointFunctions),
    ("coroutine", threadFunctions),
    ("os", systemFunctions),
    ("io", fileFunctions),
    ("package", moduleFunctions),
    ("searchers", searcherFunctions),
    ("operators", stringOperators),
    ("methods", fileMethods),
    ("events", fileEvents)]

/-- The groups that are modules. -/
def moduleNames : List String :=
  ["string", "table", "math", "utf8", "coroutine", "os", "io", "package"]

/-- The functions by their places. -/
def library : Array Native :=
  ((groups.map fun (_, functions) => functions.map Prod.snd).flatten).toArray

/-- The place of the first function of a group. -/
def groupPlace (name : String) : Nat :=
  ((groups.takeWhile (·.1 ≠ name)).map fun (_, functions) => functions.length).foldl (· + ·) 0

/-! ## Section 2: Memory -/

/-- The names of functions, the first of which has a place. -/
def nameFunctions (t : Table) : Nat → List (String × Native) → Table
  | _, [] => t
  | place, (name, _) :: rest =>
      nameFunctions (if name.isEmpty then t else t.setName name (.function place)) (place + 1) rest

/-- The functions of a group by their names. -/
def groupTable (name : String) : Table :=
  match groups.find? (·.1 = name) with
  | some (_, functions) => nameFunctions {} (groupPlace name) functions
  | none => {}

/-- The searchers of modules, in their order. -/
def searcherTable : Table :=
  let first := groupPlace "searchers"
  Table.ofItems (Array.ofFn fun i : Fin 3 => .function (first + i))

/-- Entries added to a table. -/
def addEntries (t : Table) (entries : List (String × Val)) : Table :=
  entries.foldl (fun t (name, v) => t.setName name v) t

/-- The name of the language with its version. -/
def versionText : String := "Lua 5.4"

/-- The files that stand for what surrounds a program. -/
def standardFiles : Array OpenFile :=
  #[{ name := Bytes.ofText "stdin", isStandard := true },
    { name := Bytes.ofText "stdout", reads := false, writes := true, isStandard := true },
    { name := Bytes.ofText "stderr", reads := false, writes := true, isStandard := true }]

/-- What a module has besides functions, given the table of loaded modules and those of the library of
modules. -/
def moduleEntries (loaded preload searchers : Val) : String → List (String × Val)
  | "math" => mathConstants
  | "utf8" => [("charpattern", .str pointPattern)]
  | "io" => [("stdin", .file 0), ("stdout", .file 1), ("stderr", .file 2)]
  | "package" =>
      [("loaded", loaded), ("preload", preload), ("searchers", searchers),
        ("path", .ofText defaultPath), ("cpath", .ofText defaultOtherPath),
        ("config", .ofText pathMarks)]
  | _ => []

/-- The memory before a program runs: first the tables of global variables and of loaded modules, then
those of the modules, then metatables. -/
def Memory.initial : Memory :=
  let functions := (Array.range library.size).map fun i => FunctionObject.native i []
  let m : Memory :=
    { tables := #[groupTable "_G", {}], functions, files := standardFiles, globals := 0, loaded := 1
      seed := seedOf 0 0, hasGlobals := Nat.zero_lt_succ 1 }
  let loaded : Val := .table m.loaded
  let (preload, m) := m.newTable {}
  let (searchers, m) := m.newTable searcherTable
  let m := moduleNames.foldl (fun (m : Memory) name =>
    let (t, m) := m.newTable
      (addEntries (groupTable name) (moduleEntries loaded preload searchers name))
    (m.setGlobal name t).modifyTable m.loaded fun table => table.setName name t) m
  let m := (m.setGlobal "_G" (.table m.globals)).setGlobal "_VERSION" (.ofText versionText)
  let m := m.modifyTable m.loaded fun table => table.setName "_G" (.table m.globals)
  let strings := (m.table m.globals).getName "string"
  let (methods, m) := m.newTable (groupTable "methods")
  let metatables := m.tables.size
  let m := (m.newTable (addEntries (groupTable "operators") [("__index", strings)])).2
  let m := (m.newTable
    (addEntries (groupTable "events") [("__index", methods), ("__name", .ofText "FILE*")])).2
  let m := (m.newTable (addEntries {} [("__metatable", .bool false)])).2
  { m with
    stringMetatable := some metatables
    fileMetatable := some (metatables + 1)
    listMetatable := some (metatables + 2)
    collector := {} }

end Folio.Lua
