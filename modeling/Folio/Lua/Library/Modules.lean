import Folio.Lua.Library.Strings
import Folio.Lua.Library.System

/-!
# The library of modules

A module is loaded once. Searchers are asked for it one after the other: one for functions that are set
in advance, one for files of programs, and one that knows nothing.

Main definitions:
- `Lua.requireFunction`
- `Lua.moduleFunctions`, `Lua.searcherFunctions`
-/

namespace Folio.Lua

open Effect

/-! ## Section 1: Paths -/

/-- Where files of programs are searched. -/
def defaultPath : String :=
  "/usr/local/share/lua/5.4/?.lua;/usr/local/share/lua/5.4/?/init.lua;/usr/local/lib/lua/5.4/?.lua;"
    ++ "/usr/local/lib/lua/5.4/?/init.lua;./?.lua;./?/init.lua"

/-- Where files of other modules would be searched. -/
def defaultOtherPath : String :=
  "/usr/local/lib/lua/5.4/?.so;/usr/local/lib/lua/5.4/loadall.so;./?.so"

/-- The characters that mean something in paths, one on a line. -/
def pathMarks : String := "/\n;\n?\n!\n-\n"

/-- A text with every occurrence of another one replaced. Each step takes a character. -/
def replaceAll (s part new : Bytes) : Bytes :=
  if part.size = 0 then s else go (s.size + 1) 0 ByteArray.empty
where
  /-- The text from a place on, replaced and added to what is there. -/
  go : Nat → Nat → Bytes → Bytes
    | 0, _, acc => acc
    | fuel + 1, place, acc =>
        match findPlain s part (s.size + 1) place with
        | none => acc ++ s.slice place s.size
        | some found => go fuel (found + part.size) (acc ++ s.slice place found ++ new)

/-- The parts of a text between semicolons. -/
def pathParts (path : Bytes) : List Bytes :=
  (path.chars.splitOn ';').map Bytes.ofChars

/-- The first file of a path for a name, or the message that there is none. -/
def searchPath (m : Memory) (name path separator replacement : Bytes) : Except Bytes Bytes :=
  let name := if separator.size = 0 then name else replaceAll name separator replacement
  let full := replaceAll path (Bytes.ofText "?") name
  match (pathParts full).find? fun file => (m.fileText? file).isSome with
  | some file => .ok file
  | none =>
      .error (Bytes.ofText "no file '" ++ replaceAll full (Bytes.ofText ";") (Bytes.ofText "'\n\tno file '")
        ++ Bytes.ofText "'")

/-! ## Section 2: Searchers -/

/-- The table of this library. -/
def packageTable (m : Memory) : Val := (m.table m.loaded).getName "package"

/-- Search among the functions that are set in advance. -/
def preloadSearcher : Native := fun self _ args =>
  let c : Call := ⟨self, args⟩
  match c.str 1 with
  | .error fault => c.raise fault
  | .ok name => fun m =>
      index (packageTable m) (.ofText "preload") (fun preload =>
        index preload (.str name) fun f =>
          if f.isNil then
            finish [.str (Bytes.ofText "no field package.preload['" ++ name ++ Bytes.ofText "']")]
          else finish [f, .ofText ":preload:"]) m

/-- Search among the files of programs. -/
def fileSearcher : Native := fun self _ args =>
  let c : Call := ⟨self, args⟩
  match c.str 1 with
  | .error fault => c.raise fault
  | .ok name => fun m =>
      index (packageTable m) (.ofText "path") (fun path =>
        match path.toStr? with
        | none => raise (Bytes.ofText "'package.path' must be a string")
        | some path => fun m =>
            match searchPath m name path (Bytes.ofText ".") (Bytes.ofText "/") with
            | .error message => finish [.str message] m
            | .ok file =>
                loadFile (some file) (Bytes.ofText "bt") none (fun result =>
                  match result with
                  | .ok f => finish [f, .str file]
                  | .error message =>
                      raise (Bytes.ofText "error loading module '" ++ name ++ Bytes.ofText "' from file '"
                        ++ file ++ Bytes.ofText "':\n\t" ++ message)) m) m

/-- Know nothing of modules that are no programs. -/
def otherSearcher : Native := fun _ _ _ => finish [.ofText "\n\tcan't load C modules in safe mode"]

/-- The searchers, in the order in which they are asked. -/
def searcherFunctions : List (String × Native) :=
  [("", preloadSearcher), ("", fileSearcher), ("", otherSearcher)]

/-! ## Section 3: Loading modules -/

/-- How many searchers there can be. -/
def maxSearchers : Nat := 1000000

/-- Ask searchers for a module, from one on. What those before said is in reverse. -/
def askSearchers (searchers : Nat) (name : Bytes) (next : Val → Val → Effect) :
    Nat → Nat → List Bytes → Effect
  | 0, _, _ => finish []
  | fuel + 1, i, messages => fun m =>
      match (m.table searchers).get (.ofNat i) with
      | .nil =>
          let said := Bytes.join ByteArray.empty
            (messages.reverse.map fun message => Bytes.ofText "\n\t" ++ message)
          raise (Bytes.ofText "module '" ++ name ++ Bytes.ofText "' not found:" ++ said) m
      | searcher =>
          callValue searcher [.str name] (fun vs =>
            let answer := firstOf vs
            match answer with
            | .function _ => next answer (firstOf (vs.drop 1))
            | _ =>
                match answer.toStr? with
                | some message => askSearchers searchers name next fuel (i + 1) (message :: messages)
                | none => askSearchers searchers name next fuel (i + 1) messages) m

/-- Load a module, unless it is loaded. -/
def requireFunction : String × Native :=
  native "require" (fun c => c.str 1) fun name => fun m =>
    let loaded : Val := .table m.loaded
    index loaded (.str name) (fun known =>
      if known.isTrue then finish [known]
      else fun m =>
        index (packageTable m) (.ofText "searchers") (fun searchers =>
          match searchers with
          | .table id =>
              askSearchers id name (fun loader data =>
                callValue loader [.str name, data] fun vs =>
                  let result := firstOf vs
                  let answer : Effect :=
                    index loaded (.str name) fun v =>
                      if v.isNil then
                        setIndex loaded (.str name) (.bool true) (finish [.bool true, data])
                      else finish [v, data]
                  if result.isNil then answer else setIndex loaded (.str name) result answer)
                maxSearchers 1 []
          | _ => raise (Bytes.ofText "'package.searchers' must be a table")) m) m

/-- Search a path for a file. -/
def searchPathFunction : String × Native :=
  memoryNative "searchpath" (fun c m => do
    let name ← c.str 1
    let path ← c.str 2
    let separator ← c.optional 3 (Bytes.ofText ".") c.str
    let replacement ← c.optional 4 (Bytes.ofText "/") c.str
    return searchPath m name path separator replacement) fun result =>
    match result with
    | .ok file => finish [.str file]
    | .error message => finish [.nil, .str message]

/-- The functions of modules. -/
def moduleFunctions : List (String × Native) :=
  [searchPathFunction,
    ("loadlib", fun _ _ _ =>
      raiseText "safety error: package.loadlib is disabled in safe mode")]

end Folio.Lua
