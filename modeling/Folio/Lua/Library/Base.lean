import Folio.Lua.Library.Arguments

/-!
# The basic library

Main definitions:
- `Lua.baseFunctions`: the functions
- `Lua.nextStep`, `Lua.itemsStep`: the functions that go through tables
-/

namespace Folio.Lua

open Effect

/-! ## Section 1: Tables -/

/-- The key and the value after a key. -/
def nextStep : Native := fun self _ args => fun m =>
  let c : Call := ⟨self, args⟩
  match c.table 1 with
  | .error fault => c.raise fault m
  | .ok id =>
      match (m.table id).next? (c.arg 2) with
      | none => raiseText "invalid key to 'next'" m
      | some none => finish [.nil] m
      | some (some (k, v)) => finish [k, v] m

/-- The item after an item. -/
def itemsStep : Native := fun self _ args =>
  let c : Call := ⟨self, args⟩
  match c.int 2 with
  | .error fault => c.raise fault
  | .ok i =>
      let i := i + 1
      index (c.arg 1) (.int i) fun v => finish (if v.isNil then [.nil] else [.int i, v])

/-- A function that goes through a table, with the table and where it begins. -/
def basePairs : String × Native :=
  native "pairs" (fun c => c.any 1) fun v => fun m =>
    match m.metafield v "__pairs" with
    | .nil => finish [.function nextIndex, v, .nil] m
    | f => visitValue f [v] (fun vs => finish (adjust 3 vs)) m

/-- A function that goes through the items of a table, with the table and where it begins. -/
def baseItems : String × Native :=
  pureNative "ipairs" fun c => do return [.function itemsIndex, ← c.any 1, .int 0]

/-- The value of a field without metatables. -/
def baseRawGet : String × Native :=
  readNative "rawget" fun c m => do
    let id ← c.table 1
    return [(m.table id).get (← c.any 2)]

/-- Set a field without metatables. -/
def baseRawSet : String × Native :=
  native "rawset" (fun c => do return (← c.table 1, ← c.any 2, ← c.any 3)) fun (id, k, v) =>
    rawSet id k v (finish [.table id])

/-- The length without metatables. -/
def baseRawLength : String × Native :=
  native "rawlen" (fun c =>
    match c.arg 1 with
    | .table _ | .str _ => .ok (c.arg 1)
    | _ => Call.expected 1 "table or string") fun v => fun m =>
    match v with
    | .table id =>
        let (n, m) := m.lengthOf id
        finish [.ofNat n] m
    | .str s => finish [.ofNat s.size] m
    | _ => finish [] m

/-- The metatable of a value, or what stands for it. -/
def baseGetMetatable : String × Native :=
  readNative "getmetatable" fun c m => do
    let v ← c.any 1
    match m.metafield v "__metatable" with
    | .nil => return [((m.metatableOf v).map Val.table).getD .nil]
    | hidden => return [hidden]

/-- Give a table a metatable. If that asks to be told when the table goes, this is remembered. -/
def Memory.setMetatable (m : Memory) (id : Nat) (metatable : Option Nat) : Memory :=
  let m := m.modifyTable id fun t => { t with metatable }
  match m.handler (.table id) .collect with
  | .nil => m
  | _ =>
      if m.finalizable.contains id then m else { m with finalizable := id :: m.finalizable }

/-- Set the metatable of a table. -/
def baseSetMetatable : String × Native :=
  memoryNative "setmetatable" (fun c m => do
    let id ← c.table 1
    let metatable ← match c.arg? 2 with
      | some .nil => pure none
      | some (.table other) => pure (some other)
      | _ => Call.expected 2 "nil or table"
    match m.metafield (.table id) "__metatable" with
    | .nil => return (id, metatable)
    | _ => Call.fail "cannot change a protected metatable")
    fun (id, metatable) => change (·.setMetatable id metatable) (finish [.table id])

/-! ## Section 2: Values -/

/-- A number from a text of digits and letters of a base. Only its last 64 bits count. -/
def numberInBase? (base : Nat) (cs : List Char) : Option Int64 :=
  let cs := cs.dropWhile isBlank
  let negative := cs.head? = some '-'
  let cs := Decimal.dropSign ['-', '+'] cs
  let digits := cs.takeWhile Char.isAlphanum
  let value (c : Char) : Nat :=
    if c.isDigit then c.toNat - '0'.toNat else c.toLower.toNat - 'a'.toNat + 10
  if digits.isEmpty || !(cs.drop digits.length).all isBlank then none
  else if digits.any fun c => value c ≥ base then none
  else
    let n : Int := digits.foldl (fun n c => n * base + value c) (0 : Nat)
    some (Int64.ofInt (if negative then -n else n))

/-- A value as a number. -/
def baseToNumber (c : Call) : Except CallFault (List Val) := do
  if c.lacks 2 then
    match c.arg 1 with
    | .int n => return [.int n]
    | .float x => return [.float x]
    | _ =>
        let v ← c.any 1
        return [(v.toNumber?.map Val.ofNumber).getD .nil]
  else
    let base := (← c.int 2).toInt
    match c.arg 1 with
    | .str s =>
        if base < 2 || base > 36 then Call.bad 2 "base out of range"
        else return [((numberInBase? base.toNat s.chars).map Val.int).getD .nil]
    | _ => Call.expected 1 "string"

/-- Some of the arguments, or their number. -/
def baseSelect (c : Call) : Except CallFault (List Val) := do
  let rest := c.args.drop 1
  let asksNumber : Bool := match c.arg 1 with
    | .str s => s.at? 0 = some '#'.toNat.toUInt8
    | _ => false
  if asksNumber then return [.ofNat rest.length]
  let n := (← c.int 1).toInt
  if n < 0 then
    if -n > rest.length then Call.bad 1 "index out of range"
    else return rest.drop (rest.length - n.natAbs)
  else if n = 0 then Call.bad 1 "index out of range"
  else return rest.drop (n.toNat - 1)

/-- Turn arguments into texts, one after the other. -/
def textsOf : List Val → Effect → Effect
  | [], next => next
  | v :: rest, next => textOf v fun _ => textsOf rest next

/-- Write texts of the arguments, which nobody reads. -/
def basePrint : String × Native := ("print", fun _ _ args => textsOf args (finish []))

/-- Warn with the arguments, which nobody reads. -/
def baseWarn : String × Native :=
  pureNative "warn" fun c => do
    let _ ← c.str 1
    let _ ← c.each 2 Call.strOf
    return []

/-! ## Section 3: Failures -/

/-- Fail with a value. A text gets the place in the program in front that is so many calls away. -/
def raiseValue (v : Val) (level : Int) : Effect := fun m =>
  match v with
  | .str s =>
      if level ≤ 0 then failWith v m
      else (.position level.toNat fun place => failWith (.str (place ++ s)), m)
  | v => failWith v m

/-- Fail with a value. -/
def baseError : String × Native :=
  native "error" (fun c => do return ((← c.optInt 2 1), c.arg 1)) fun (level, v) => raiseValue v level

/-- Fail unless a value is true. -/
def baseAssert : String × Native :=
  native "assert" (fun c => do
    if !(c.arg 1).isTrue then
      let _ ← c.any 1
    return c) fun c =>
    if (c.arg 1).isTrue then finish c.args
    else raiseValue ((c.arg? 2).getD (.ofText "assertion failed!")) 1

/-- Call a function and tell whether it failed. -/
def baseProtected : String × Native :=
  native "pcall" (fun c => do return (← c.any 1, c.args.drop 1)) fun (f, args) => fun m =>
    (.protect none f args (fun ok vs => finish (.bool ok :: vs)), m)

/-- Call a function and tell whether it failed; a handler gets what it failed with. -/
def baseHandled : String × Native :=
  native "xpcall" (fun c => do
    let handler ← c.function 2
    return (c.arg 1, handler, c.args.drop 2)) fun (f, handler, args) => fun m =>
    (.protect (some handler) f args (fun ok vs => finish (.bool ok :: vs)), m)

/-! ## Section 4: Cleaning up -/

/-- Change how memory is cleaned up. -/
def Memory.setCollector (m : Memory) (f : Collector → Collector) : Memory :=
  { m with collector := f m.collector }

/-- The names of what can be asked of cleaning up. -/
def collectorOptions : List String :=
  ["stop", "restart", "collect", "count", "step", "setpause", "setstepmul", "isrunning",
    "generational", "incremental"]

/-- A parameter of cleaning up as it is kept: in units of four, in a byte. -/
def keptParameter (n : Int) : Nat := ((Int.tdiv n 4) % 256).toNat * 4

/-- Clean memory up, or change how that is done. -/
def collectorAction (option : String) (n : Int) : Effect := fun m =>
  let c := m.collector
  if c.isBusy then finish [.nil] m
  else
    match option with
    | "collect" => (.collect (finish [.int 0]), m)
    | "step" => (.collect (finish [.bool true]), m)
    | "count" =>
        let kilobytes := Float.ofNat (c.kept + c.used) / 1024.0
        finish [.float kilobytes] m
    | "stop" => finish [.int 0] (m.setCollector fun c => { c with isStopped := true })
    | "restart" => finish [.int 0] (m.setCollector fun c => { c with isStopped := false, used := 0 })
    | "setpause" =>
        finish [.ofNat c.pause] (m.setCollector fun c => { c with pause := keptParameter n })
    | "setstepmul" =>
        finish [.ofNat c.stepFactor] (m.setCollector fun c => { c with stepFactor := keptParameter n })
    | "isrunning" => finish [.bool !c.isStopped] m
    | option =>
        let mode := if c.isGenerational then "generational" else "incremental"
        finish [.ofText mode] (m.setCollector fun c =>
          { c with isGenerational := option == "generational" })

/-- Clean memory up. -/
def baseCollect : String × Native :=
  native "collectgarbage" (fun c => do
    let option ← c.option 1 "collect" collectorOptions
    let n ← if ["step", "setpause", "setstepmul", "generational", "incremental"].contains option
      then c.optInt 2 0 else pure 0
    return (option, n)) fun (option, n) => collectorAction option n

/-! ## Section 5: The library -/

/-- The basic functions. -/
def baseFunctions : List (String × Native) :=
  [baseItems, basePairs, baseRawGet, baseRawSet, baseRawLength, baseGetMetatable, baseSetMetatable,
    baseError, baseAssert, baseProtected, baseHandled, baseCollect, basePrint, baseWarn,
    pureNative "type" fun c => do return [.ofText (← c.any 1).typeName],
    native "tostring" (fun c => c.any 1) fun v => textOf v fun s => finish [.str s],
    pureNative "tonumber" baseToNumber,
    pureNative "select" baseSelect,
    pureNative "rawequal" fun c => do return [.bool ((← c.any 1).same (← c.any 2))]]

end Folio.Lua
