import Folio.Lua.Calendar
import Folio.Lua.Library.Programs

/-!
# The library of the system

Dates, and what surrounds a program. A program sees a clock that stands still, no variables of the
environment, and only those files that it made.

Main definitions:
- `Lua.systemFunctions`: the functions
-/

namespace Folio.Lua

open Effect

/-! ## Section 1: Results -/

/-- What a function returns that could not do something with a file. -/
def failedResult (name : Option Bytes) (message : String) (code : Nat) : List Val :=
  let text := match name with
    | some name => name ++ Bytes.ofText (": " ++ message)
    | none => Bytes.ofText message
  [.nil, .str text, .ofNat code]

/-- What a function returns that finds no file of a name. -/
def missingResult (name : Bytes) : List Val := failedResult (some name) missingFile 2

/-! ## Section 2: Dates -/

/-- The time that programs see, in seconds. -/
def presentTime : Int := 1767225600

/-- The letters of a format for dates that can stand after a modifier. -/
def modifiedLetters : List (Char × String) := [('E', "cCxXyY"), ('O', "deHImMSuUVwWy")]

/-- A date by a format. Each step takes a character. -/
def dateText (time : CalendarTime) (zone : String) : Nat → List Char → Except CallFault (List Char)
  | 0, _ => .ok []
  | _ + 1, [] => .ok []
  | fuel + 1, '%' :: rest => do
      let invalid : Except CallFault (String × List Char) :=
        .error (.argument 1 (Bytes.ofText "invalid conversion specifier '%" ++ Bytes.ofChars rest
          ++ Bytes.ofText "'"))
      let plain (letter : Char) (rest : List Char) : Except CallFault (String × List Char) :=
        match time.formatted? zone letter with
        | some text => .ok (text, rest)
        | none => invalid
      let (text, rest) ← match rest with
        | c :: letter :: rest' =>
            match modifiedLetters.find? (·.1 = c) with
            | some (_, letters) => if letters.toList.contains letter then plain letter rest' else invalid
            | none => plain c (letter :: rest')
        | [c] => plain c []
        | [] => invalid
      return text.toList ++ (← dateText time zone fuel rest)
  | fuel + 1, c :: rest => do return c :: (← dateText time zone fuel rest)

/-- Set the fields of a table to the parts of a date. -/
def setDate (t : Table) (c : CalendarTime) : Table :=
  let fields : List (String × Val) :=
    [("year", .int (Int64.ofInt c.year)), ("month", .ofNat c.month), ("day", .ofNat c.day),
      ("hour", .ofNat c.hour), ("min", .ofNat c.minute), ("sec", .ofNat c.second),
      ("yday", .ofNat (c.yearDay + 1)), ("wday", .ofNat (c.weekday + 1)), ("isdst", .bool false)]
  fields.foldl (fun t (name, v) => t.setName name v) t

/-- Whether the year of a date can be told. -/
def isTellable (c : CalendarTime) : Bool :=
  let limit : Int := Nat.pow 2 31
  let years := c.year - 1900
  years ≥ -limit && years < limit

/-- A date as text, or as a table. -/
def systemDate : String × Native :=
  native "date" (fun c => do
    let format ← c.optional 1 (Bytes.ofText "%c") c.str
    let t ← c.optInt 2 presentTime
    let cs := format.chars
    let (zone, cs) := if cs.head? = some '!' then ("GMT", cs.drop 1) else ("UTC", cs)
    let time := CalendarTime.ofSeconds t
    if !isTellable time then
      Call.fail "date result cannot be represented in this installation"
    else if cs.takeWhile (·.toNat ≠ 0) = "*t".toList then return (time, none)
    else return (time, some (← dateText time zone (cs.length + 1) cs)))
    fun (time, text) =>
      match text with
      | some cs => finish [.str (Bytes.ofChars cs)]
      | none => make (·.newTable (setDate (Table.resize {} 0 9) time)) fun t => finish [t]

/-- A field of a date, less an amount. A field that is missing has a value by default, or none. -/
def dateField (name : String) (v : Val) (default : Option Int) (less : Int) :
    Except CallFault Int :=
  match v.toInt? with
  | some n =>
      let n := n.toInt
      let limit : Int := Nat.pow 2 31
      if if n ≥ 0 then n - less < limit else less - limit ≤ n then .ok (n - less)
      else Call.fail ("field '" ++ name ++ "' is out-of-bound")
  | none =>
      if !v.isNil then Call.fail ("field '" ++ name ++ "' is not an integer")
      else
        match default with
        | some n => .ok n
        | none => Call.fail ("field '" ++ name ++ "' missing in date table")

/-- Read the fields of a table one after the other. -/
def readFields (t : Val) : List String → List Val → (List Val → Effect) → Effect
  | [], values, next => next values.reverse
  | name :: rest, values, next =>
      index t (.ofText name) fun v => readFields t rest (v :: values) next

/-- The seconds of the fields of a date. -/
def secondsOfFields (values : List Val) : Except CallFault Int := do
  let v (i : Nat) : Val := (values[i]?).getD .nil
  let year ← dateField "year" (v 0) none 1900
  let month ← dateField "month" (v 1) none 1
  let day ← dateField "day" (v 2) none 0
  let hour ← dateField "hour" (v 3) (some 12) 0
  let minute ← dateField "min" (v 4) (some 0) 0
  let second ← dateField "sec" (v 5) (some 0) 0
  return secondsOf (year + 1900) (month + 1) day hour minute second

/-- The present time, or that of a table, which gets the parts of the date in their ranges. -/
def systemTime : String × Native :=
  native "time" (fun c => if c.lacks 1 then .ok (none, c) else do return (some (← c.table 1), c))
    fun (table, c) =>
      match table with
      | none => finish [.int (Int64.ofInt presentTime)]
      | some id =>
          readFields (.table id) ["year", "month", "day", "hour", "min", "sec"] [] fun values =>
            match secondsOfFields values with
            | .error fault => c.raise fault
            | .ok t =>
                let time := CalendarTime.ofSeconds t
                if t = -1 || !isTellable time then
                  raise (Bytes.ofText "time result cannot be represented in this installation")
                else
                  change (·.modifyTable id fun table => setDate table time) <|
                    finish [.int (Int64.ofInt t)]

/-! ## Section 3: The surroundings -/

/-- Remove a file. -/
def systemRemove : String × Native :=
  native "remove" (fun c => c.str 1) fun name => fun m =>
    match m.fileText? name with
    | some _ => finish [.bool true] (m.removeFile name)
    | none => finish (missingResult name) m

/-- Give a file another name. -/
def systemRename : String × Native :=
  native "rename" (fun c => do return (← c.str 1, ← c.str 2)) fun (name, other) => fun m =>
    match m.fileText? name with
    | some text => finish [.bool true] ((m.removeFile name).writeFile other text)
    | none => finish (missingResult name) m

/-- The name of a new file that is empty. -/
def systemTemporary : String × Native :=
  ("tmpname", fun _ _ _ => fun m =>
    let name := Bytes.ofText ("/tmp/lua_" ++ toString (100000 + m.disk.length))
    finish [.str name] (m.writeFile name ByteArray.empty))

/-- Tell how things are written; only the plain way is known. -/
def systemLocale (c : Call) : Except CallFault (List Val) := do
  let name ← c.optional 1 ByteArray.empty c.str
  let _ ← c.option 2 "all" ["all", "collate", "ctype", "monetary", "numeric", "time"]
  if ["", "C", "POSIX"].any fun known => name == Bytes.ofText known then return [.ofText "C"]
  else return [.nil]

/-- Run a command, of which there is none. -/
def systemExecute (c : Call) : Except CallFault (List Val) := do
  let command ← c.optional 1 none fun i => (c.str i).map some
  match command with
  | none => return [.bool true]
  | some _ => return [.nil, .ofText "exit", .ofNat 127]

/-- The functions of the system. -/
def systemFunctions : List (String × Native) :=
  [systemDate, systemTime, systemRemove, systemRename, systemTemporary,
    pureNative "setlocale" systemLocale,
    pureNative "execute" systemExecute,
    pureNative "clock" fun _ => .ok [.float 0.01],
    pureNative "getenv" fun c => do
      let _ ← c.str 1
      return [.nil],
    pureNative "difftime" fun c => do
      return [.float (floatOfInt (← c.int 1) - floatOfInt (← c.int 2))],
    ("exit", fun _ _ _ => failWith .nil)]

end Folio.Lua
