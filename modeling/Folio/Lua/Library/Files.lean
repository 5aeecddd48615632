import Folio.Lua.Library.System

/-!
# The library of files

A file is read and written from a place on, which moves. The files that stand for what surrounds a
program hold nothing, and what is written to them goes nowhere.

Main definitions:
- `Lua.readFile`: reading by formats
- `Lua.fileFunctions`: the functions on files that are open already or not
- `Lua.fileMethods`, `Lua.fileEvents`: the functions of open files
-/

namespace Folio.Lua

open Effect

/-! ## Section 1: Open files -/

namespace Memory

/-- An open file. -/
def openFile (m : Memory) (id : Nat) : OpenFile := (m.files[id]?).getD { name := .empty, isClosed := true }

/-- Change an open file. -/
def modifyFile (m : Memory) (id : Nat) (f : OpenFile → OpenFile) : Memory :=
  { m with files := m.files.modify id f }

/-- The contents of an open file. -/
def contents (m : Memory) (id : Nat) : Bytes := (m.fileText? (m.openFile id).name).getD .empty

/-- Add an open file. -/
def addFile (m : Memory) (f : OpenFile) : Val × Memory :=
  (.file m.files.size, { m with files := m.files.push f })

end Memory

/-- How a file is opened. -/
structure FileMode where
  reads : Bool
  writes : Bool
  /-- Whether what is written goes to the end. -/
  appends : Bool := false
  /-- Whether the file is made anew. -/
  empties : Bool := false

/-- The mode that a text stands for. -/
def FileMode.ofChars? (cs : List Char) : Option FileMode :=
  let (plus, rest) := match cs.drop 1 with
    | '+' :: rest => (true, rest)
    | rest => (false, rest)
  if !rest.all (· = 'b') then none
  else
    match cs.head? with
    | some 'r' => some { reads := true, writes := plus }
    | some 'w' => some { reads := plus, writes := true, empties := true }
    | some 'a' => some { reads := plus, writes := true, appends := true }
    | _ => none

/-- Whether a file of a name could be made: in the directory of the program or in the one for
files that do not last. -/
def isWritable (name : Bytes) : Bool :=
  let cs := name.chars
  let cs := if "/tmp/".toList.isPrefixOf cs then cs.drop 5
    else if "./".toList.isPrefixOf cs then cs.drop 2 else cs
  !cs.isEmpty && !cs.contains '/'

/-- Open a file, unless there is none. -/
def openNamed (name : Bytes) (mode : FileMode) (next : Option Val → Effect) : Effect :=
  fun m =>
    let known := m.fileText? name
    let file : OpenFile :=
      { name, reads := mode.reads, writes := mode.writes, appends := mode.appends }
    if mode.writes && (mode.empties || mode.appends) && (known.isSome || isWritable name) then
      let m := if known.isNone || mode.empties then m.writeFile name ByteArray.empty else m
      let (v, m) := m.addFile file
      next (some v) m
    else if known.isSome then
      let (v, m) := m.addFile file
      next (some v) m
    else next none m

/-! ## Section 2: Reading -/

/-- What is read from a file. -/
inductive ReadFormat where
  | number
  | line (keepsEnd : Bool)
  | all
  | bytes (count : Nat)
deriving Inhabited

/-- A format of an argument. -/
def ReadFormat.ofArgument (i : Nat) (v : Val) : Except CallFault ReadFormat :=
  match v with
  | .int _ | .float _ => do return .bytes (← Call.intOf i v).toUInt64.toNat
  | v => do
      let cs := (← Call.strOf i v).chars
      match (if cs.head? = some '*' then cs.drop 1 else cs).head? with
      | some 'n' => return .number
      | some 'l' => return .line false
      | some 'L' => return .line true
      | some 'a' => return .all
      | _ => Call.bad i "invalid format"

/-- The formats of the arguments from one on. -/
def readFormats (c : Call) (first : Nat) : Except CallFault (List ReadFormat) :=
  if c.args.length < first then .ok [.line false]
  else c.each first ReadFormat.ofArgument

/-- The beginning of a text that looks like a number, white space before it included, in characters. -/
def numeralLength (cs : List Char) : Nat × List Char :=
  let blanks := cs.takeWhile isBlank
  let take (wanted : Char → Bool) (found rest : List Char) : List Char × List Char :=
    match rest with
    | c :: more => if wanted c then (found ++ [c], more) else (found, rest)
    | [] => (found, rest)
  let (found, rest) := take (fun c => c = '-' || c = '+') [] (cs.drop blanks.length)
  let (isHex, zeros, found, rest) := match rest with
    | '0' :: x :: more =>
        if x = 'x' || x = 'X' then (true, 0, found ++ ['0', x], more) else (false, 1, found ++ ['0'], x :: more)
    | ['0'] => (false, 1, found ++ ['0'], [])
    | rest => (false, 0, found, rest)
  let isDigit (c : Char) : Bool := if isHex then isHexDigit c else c.isDigit
  let digits := rest.takeWhile isDigit
  let (found, rest) := (found ++ digits, rest.drop digits.length)
  let (found, rest, fraction) := match rest with
    | '.' :: more =>
        let fraction := more.takeWhile isDigit
        (found ++ '.' :: fraction, more.drop fraction.length, fraction.length)
    | rest => (found, rest, 0)
  let found := if zeros + digits.length + fraction = 0 then found
    else
      match rest with
      | c :: more =>
          if (if isHex then c = 'p' || c = 'P' else c = 'e' || c = 'E') then
            let (found, more) := take (fun c => c = '-' || c = '+') (found ++ [c]) more
            found ++ more.takeWhile Char.isDigit
          else found
      | [] => found
  (blanks.length + found.length, found)

/-- Read from a text at a place: the value, or nothing at the end, and the place after it. -/
def readOne (s : Bytes) (place : Nat) (format : ReadFormat) : Option Val × Nat :=
  match format with
  | .all => (some (.str (s.slice place s.size)), max place s.size)
  | .bytes count =>
      if place ≥ s.size then (none, place)
      else
        let stop := min s.size (place + count)
        (some (.str (s.slice place stop)), stop)
  | .line keepsEnd =>
      if place ≥ s.size then (none, place)
      else
        let line := (s.slice place s.size).toList.takeWhile (· ≠ 10)
        let stop := place + line.length
        let shown := if keepsEnd then min s.size (stop + 1) else stop
        (some (.str (s.slice place shown)), min s.size (stop + 1))
  | .number =>
      let (length, numeral) := numeralLength (s.slice place s.size).chars
      ((Number.ofChars? numeral).map Val.ofNumber, place + length)

/-- Read by formats, up to the first one for which there is nothing. -/
def readAll (s : Bytes) : List ReadFormat → Nat → List Val × Nat
  | [], place => ([], place)
  | format :: rest, place =>
      match readOne s place format with
      | (none, place) => ([.nil], place)
      | (some v, place) =>
          let (vs, place) := readAll s rest place
          (v :: vs, place)

/-- Read from an open file. -/
def readFile (id : Nat) (formats : List ReadFormat) (next : List Val → Effect) : Effect :=
  fun m =>
    let file := m.openFile id
    if !file.reads then next (failedResult none "Bad file descriptor" 9) m
    else
      let (values, place) := readAll (m.contents id) formats file.place
      next values (m.modifyFile id fun f => { f with place })

/-! ## Section 3: Writing -/

/-- Write to an open file. -/
def writeFile (id : Nat) (s : Bytes) (m : Memory) : Memory :=
  let file := m.openFile id
  if file.isStandard then m
  else
    let old := m.contents id
    let place := if file.appends then old.size else file.place
    let start := old.slice 0 place
    let start := ⟨start.data ++ Array.replicate (place - start.size) 0⟩
    let new := start ++ s ++ old.slice (place + s.size) old.size
    (m.writeFile file.name new).modifyFile id fun f => { f with place := place + s.size }

/-- The texts of arguments from one on. -/
def textsFrom (c : Call) (first : Nat) : Except CallFault Bytes := do
  let texts ← c.each first Call.strOf
  return Bytes.join ByteArray.empty texts

/-- Write arguments to an open file. -/
def writeArguments (c : Call) (id first : Nat) : Effect := fun m =>
  match textsFrom c first with
  | .error fault => c.raise fault m
  | .ok s =>
      if (m.openFile id).writes then finish [.file id] (writeFile id s m)
      else finish (failedResult none "Bad file descriptor" 9) m

/-- Close an open file. Those that stand for what surrounds the program stay. -/
def closeFile (id : Nat) : Effect := fun m =>
  if (m.openFile id).isStandard then finish [.nil, .ofText "cannot close standard file"] m
  else finish [.bool true] (m.modifyFile id fun f => { f with isClosed := true })

/-! ## Section 4: Arguments -/

/-- A file among the arguments. -/
def Call.handle (c : Call) (i : Nat) : Except CallFault Nat :=
  match c.arg i with
  | .file id => .ok id
  | _ => Call.expected i "FILE*"

/-- A file among the arguments that is open. -/
def Call.file (c : Call) (m : Memory) (i : Nat) : Except CallFault Nat := do
  let id ← c.handle i
  if (m.openFile id).isClosed then Call.fail "attempt to use a closed file" else return id

/-- A function of an open file, its first argument. -/
def fileMethod (name : String) (f : Call → Nat → Effect) : String × Native :=
  memoryNative name (fun c m => do return (c, ← c.file m 1)) fun (c, id) => f c id

/-- The file that is read, or written, without a name. -/
def standardFile (c : Call) (isInput : Bool) (next : Nat → Effect) : Effect := fun m =>
  let id := if isInput then m.input else m.output
  if (m.openFile id).isClosed then
    c.raise (.failure (Bytes.ofText ("default " ++ (if isInput then "input" else "output")
      ++ " file is closed"))) m
  else next id m

/-- A function that goes through a file by the formats of arguments. Whether the file is closed at its
end. -/
def linesOf (c : Call) (id first : Nat) (closes : Bool) (next : Val → Effect) : Effect :=
  let state := [.file id, .bool closes] ++ c.args.drop (first - 1)
  make (·.newFunction (.native linesIndex state)) next

/-- Go on through a file. -/
def linesStep : Native := fun self state _ => fun m =>
  match state with
  | .file id :: .bool closes :: formats =>
      let c : Call := ⟨self, .nil :: formats⟩
      if (m.openFile id).isClosed then raise (Bytes.ofText "file is already closed") m
      else
        match readFormats c 2 with
        | .error fault => c.raise fault m
        | .ok formats =>
            readFile id formats (fun vs =>
              if (firstOf vs).isTrue then finish vs
              else
                match vs with
                | _ :: .str message :: _ => raise message
                | _ => fun m =>
                    finish [] (if closes then m.modifyFile id fun f => { f with isClosed := true }
                      else m)) m
  | _ => finish [] m

/-! ## Section 5: Functions of open files -/

/-- Move the place of a file. -/
def seekFile (c : Call) (id : Nat) : Effect := fun m =>
  let read : Except CallFault (String × Int) := do
    return (← c.option 2 "cur" ["set", "cur", "end"], ← c.optInt 3 0)
  match read with
  | .error fault => c.raise fault m
  | .ok (whence, offset) =>
      let base : Nat := match whence with
        | "set" => 0
        | "cur" => (m.openFile id).place
        | _ => (m.contents id).size
      let place := base + offset
      if place < 0 then finish (failedResult none "Invalid argument" 22) m
      else finish [.int (Int64.ofInt place)] (m.modifyFile id fun f => { f with place := place.toNat })

/-- The functions of open files. -/
def fileMethods : List (String × Native) :=
  [fileMethod "close" fun _ id => closeFile id,
    fileMethod "flush" fun _ _ => finish [.bool true],
    fileMethod "lines" fun c id => linesOf c id 2 false fun f => finish [f],
    fileMethod "read" fun c id => fun m =>
      match readFormats c 2 with
      | .error fault => c.raise fault m
      | .ok formats => readFile id formats finish m,
    fileMethod "seek" seekFile,
    fileMethod "setvbuf" fun _ _ => finish [.bool true],
    fileMethod "write" fun c id => writeArguments c id 2]

/-- An open file as text. -/
def fileText (id : Nat) (m : Memory) : Bytes :=
  Bytes.ofText (if (m.openFile id).isClosed then "file (closed)"
    else "file (" ++ (Val.file id).address?.getD "" ++ ")")

/-- Close a file that goes. -/
def fileEnd (name : String) : String × Native :=
  native name (fun c => c.handle 1) fun id => fun m =>
    if (m.openFile id).isClosed then finish [] m else closeFile id m

/-- What the metatable of files has for events. -/
def fileEvents : List (String × Native) :=
  [fileEnd "__gc", fileEnd "__close",
    memoryNative "__tostring" (fun c m => do return fileText (← c.handle 1) m) fun s =>
      finish [.str s]]

/-! ## Section 6: Functions -/

/-- Open a file. -/
def openFunction : String × Native :=
  native "open" (fun c => do
    let name ← c.str 1
    match FileMode.ofChars? (← c.optional 2 (Bytes.ofText "r") c.str).chars with
    | some mode => return (name, mode)
    | none => Call.bad 2 "invalid mode") fun (name, mode) =>
    openNamed name mode fun file =>
      match file with
      | some v => finish [v]
      | none => finish (missingResult name)

/-- Open a file that must be there. -/
def openOrFail (name : Bytes) (mode : FileMode) (next : Val → Effect) : Effect :=
  openNamed name mode fun file =>
    match file with
    | some v => next v
    | none =>
        raise (Bytes.ofText "cannot open file '" ++ name ++ Bytes.ofText ("' (" ++ missingFile ++ ")"))

/-- The file that is read, or written, without a name; let it be another one. -/
def standardFunction (name : String) (isInput : Bool) : String × Native :=
  let set (id : Nat) (m : Memory) : Memory :=
    if isInput then { m with input := id } else { m with output := id }
  memoryNative name (fun c m => do
    if c.lacks 1 then return none
    match (c.arg 1).toStr? with
    | some name => return some (Sum.inl name)
    | none => return some (Sum.inr (← c.file m 1))) fun choice =>
    let answer : Effect := fun m => finish [.file (if isInput then m.input else m.output)] m
    match choice with
    | none => answer
    | some (.inr id) => change (set id) answer
    | some (.inl name) =>
        let mode : FileMode := if isInput then { reads := true, writes := false }
          else { reads := false, writes := true, empties := true }
        openOrFail name mode fun file =>
          match file with
          | .file id => change (set id) answer
          | _ => answer

/-- Go through the lines of a file. -/
def linesFunction : String × Native :=
  ("lines", fun self _ args =>
    let c : Call := ⟨self, args⟩
    if c.lacks 1 then
      standardFile c true fun id => linesOf c id 2 false fun f => finish [f]
    else
      match c.str 1 with
      | .error fault => c.raise fault
      | .ok name =>
          openOrFail name { reads := true, writes := false } fun file =>
            match file with
            | .file id => linesOf c id 2 true fun f => finish [f, .nil, .nil, .file id]
            | _ => finish [])

/-- The functions on files. -/
def fileFunctions : List (String × Native) :=
  [openFunction, linesFunction, standardFunction "input" true, standardFunction "output" false,
    ("read", fun self _ args =>
      let c : Call := ⟨self, args⟩
      standardFile c true fun id =>
        match readFormats c 1 with
        | .error fault => c.raise fault
        | .ok formats => readFile id formats finish),
    ("write", fun self _ args =>
      let c : Call := ⟨self, args⟩
      standardFile c false fun id => writeArguments c id 1),
    ("flush", fun self _ args =>
      let c : Call := ⟨self, args⟩
      standardFile c false fun _ => finish [.bool true]),
    memoryNative "close" (fun c m => if c.args.isEmpty then .ok m.output else c.file m 1) closeFile,
    memoryNative "type" (fun c m => do
      match ← c.any 1 with
      | .file id => return if (m.openFile id).isClosed then .ofText "closed file" else .ofText "file"
      | _ => return .nil) fun v => finish [v],
    ("tmpfile", fun _ _ _ => fun m =>
      let name := Bytes.ofText ("\x00" ++ toString m.files.size)
      let (v, m) := (m.writeFile name .empty).addFile { name, reads := true, writes := true }
      finish [v] m),
    pureNative "popen" fun c => do
      let name ← c.str 1
      return failedResult (some name) "Cannot allocate memory" 12]

end Folio.Lua
