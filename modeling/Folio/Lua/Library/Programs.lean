import Folio.Lua.Compile.Grammar
import Folio.Lua.Library.Arguments

/-!
# The library of programs

Programs are made from texts, from pieces that a function gives, and from files. A function that was
written as a text is a program too.

Main definitions:
- `Lua.LoadFault`: why a text is no program
- `Lua.readProgram`: a program from its text
- `Lua.makeProgram`: a program as a function
- `Lua.programFunctions`: the functions
-/

namespace Folio.Lua

open Effect

/-! ## Section 1: Programs from texts -/

/-- Why a text is no program. -/
inductive LoadFault where
  | malformed (e : SyntaxError) (title : Bytes)
  /-- A text of another kind is wanted. -/
  | wrongKind (kind : String) (wanted : Bytes)
  | notBinary (name : Bytes)
  | truncated (name : Bytes)

/-- The wording of a fault. -/
def LoadFault.message : LoadFault → Bytes
  | .malformed e title => e.message title
  | .wrongKind kind wanted =>
      Bytes.ofText ("attempt to load a " ++ kind ++ " chunk (mode is '") ++ wanted
        ++ Bytes.ofText "')"
  | .notBinary name => name ++ Bytes.ofText ": bad binary format (not a binary chunk)"
  | .truncated name => name ++ Bytes.ofText ": bad binary format (truncated chunk)"

/-- The byte with which a function that was written as a text begins. -/
def binaryMark : Char := Char.ofNat 0x1B

/-- The beginning of a function that was written as a text. -/
def binaryHeader : Bytes :=
  Bytes.ofChars (binaryMark :: "LuaT\x00\x19".toList ++ [Char.ofNat 0x93, '\r', '\n', '\x1a', '\n'])

/-- The text of a function that has a place among those that were written. -/
def binaryText (place : Nat) : Bytes := binaryHeader ++ Bytes.ofText (toString place)

/-- The name of a program without its mark. -/
def plainName (name : Bytes) : Bytes :=
  match name.chars with
  | '@' :: rest | '=' :: rest => Bytes.ofChars rest
  | c :: _ => if c = binaryMark then Bytes.ofText "binary string" else name
  | [] => name

/-- A function that was written as a text. -/
def readBinary (m : Memory) (source name : Bytes) : Except LoadFault Prototype :=
  let name := plainName name
  let start := Bytes.ofText "\x1bLua"
  if source.size < start.size then .error (.truncated name)
  else if !(source.slice 0 start.size == start) then .error (.notBinary name)
  else
    let digits := (source.slice binaryHeader.size source.size).chars
    match (Decimal.digitsInBase? 10 digits).bind fun place => m.dumped[place]? with
    | some p => .ok p
    | none => .error (.truncated name)

/-- A program from its text, inside so many calls. `kinds` has a letter for each kind of text that is
wanted, binary or not. -/
def readProgram (m : Memory) (source name kinds : Bytes) (calls : Nat) :
    Except LoadFault Prototype :=
  let isBinary := source.at? 0 = some binaryMark.toNat.toUInt8
  let wanted := kinds.chars.takeWhile (·.toNat ≠ 0)
  if isBinary then
    if wanted.contains 'b' then readBinary m source name
    else .error (.wrongKind "binary" (Bytes.ofChars wanted))
  else if wanted.contains 't' then
    let title := chunkTitle name
    match compile title source calls with
    | .ok p => .ok p
    | .error e => .error (.malformed e title)
  else .error (.wrongKind "text" (Bytes.ofChars wanted))

/-- A program as a function. The first of its outer variables holds the table of the global
variables. -/
def makeProgram (p : Prototype) (globals : Val) (m : Memory) : Val × Memory :=
  let first := m.cells.size
  let count := p.outers.size
  let fresh : Array Cell := (Array.range count).map fun i => .closed (if i = 0 then globals else .nil)
  let m := { m with cells := m.cells ++ fresh }
  m.newFunction (.closure p ((Array.range count).map (first + ·)))

/-- Make a function of a program, or say why there is none. Without a table for its global variables
it gets that of the library. -/
def loadProgram (source name kinds : Bytes) (globals : Option Val)
    (next : Except Bytes Val → Effect) : Effect := fun m =>
  (.depth fun calls => fun m =>
    match readProgram m source name kinds calls with
    | .error fault => next (.error fault.message) m
    | .ok p =>
        let (f, m) := makeProgram p (globals.getD (.table m.globals)) m
        next (.ok f) m, m)

/-- A function, or nothing and a message. -/
def loadResult : Except Bytes Val → Effect
  | .ok f => finish [f]
  | .error message => finish [.nil, .str message]

/-! ## Section 2: Texts in pieces -/

/-- Whether the pieces so far are no beginning of a program, however they go on. -/
def isHopeless (m : Memory) (source name : Bytes) : Bool :=
  match readProgram m source name (Bytes.ofText "t") 0 with
  | .error (.malformed e _) => e.near.any fun token => !(token == Bytes.ofText "<eof>")
  | _ => false

/-- How many pieces are read at most. -/
def maxPieces : Nat := 1000000000

/-- The text that a function gives piece by piece, up to an empty piece. The pieces so far are in
reverse. Now and then it is asked whether more of them are of use. -/
def readPieces (f : Val) (name : Bytes) (next : Bytes → Effect) :
    Nat → Nat → List Bytes → Effect
  | 0, _, pieces => next (Bytes.join ByteArray.empty pieces.reverse)
  | fuel + 1, count, pieces => fun m =>
      let read : Bool → List Val → Effect := fun ok vs =>
        if !ok then finish [.nil, firstOf vs]
        else
          match firstOf vs with
          | .nil => next (Bytes.join ByteArray.empty pieces.reverse)
          | v =>
              match v.toStr? with
              | none => fun m =>
                  (.position 1 fun place =>
                    finish [.nil, .str (place ++ Bytes.ofText "reader function must return a string")], m)
              | some s =>
                  if s.size = 0 then next (Bytes.join ByteArray.empty pieces.reverse)
                  else readPieces f name next fuel (count + 1) (s :: pieces)
      let source := Bytes.join ByteArray.empty (if Table.isPowerOfTwo (count + 256) then pieces.reverse else [])
      if source.size > 0 && isHopeless m source name then next source m
      else (.protect none f [] read, m)

/-- Make a function of a text or of pieces. -/
def loadFunction : String × Native :=
  native "load" (fun c => do
    let kinds ← c.optional 3 (Bytes.ofText "bt") c.str
    match (c.arg 1).toStr? with
    | some source =>
        let name ← c.optional 2 source c.str
        return (some source, name, kinds, c)
    | none =>
        let name ← c.optional 2 (Bytes.ofText "=(load)") c.str
        let _ ← c.function 1
        return (none, name, kinds, c))
    fun (source, name, kinds, c) =>
      let load (source : Bytes) : Effect :=
        loadProgram source name kinds (c.arg? 4) loadResult
      match source with
      | some source => load source
      | none => readPieces (c.arg 1) name load maxPieces 0 []

/-! ## Section 3: Files -/

/-- The text of a program in a file: without a mark of its encoding, and without a first line that
begins with a number sign. -/
def programText (text : Bytes) : Bytes :=
  let mark := Bytes.ofText "\uFEFF"
  let text := if text.slice 0 mark.size == mark then text.slice mark.size text.size else text
  match text.chars with
  | '#' :: rest => Bytes.ofChars (rest.dropWhile (· ≠ '\n'))
  | _ => text

/-- The message when there is no file of a name. -/
def missingFile : String := "No such file or directory"

/-- Make a function of the program in a file. Without a name there is no text. -/
def loadFile (name : Option Bytes) (kinds : Bytes) (globals : Option Val)
    (next : Except Bytes Val → Effect) : Effect := fun m =>
  match name with
  | none => loadProgram ByteArray.empty (Bytes.ofText "=stdin") kinds globals next m
  | some name =>
      match m.fileText? name with
      | some text =>
          loadProgram (programText text) (Bytes.ofText "@" ++ name) kinds globals next m
      | none =>
          next (.error (Bytes.ofText "cannot open " ++ name ++ Bytes.ofText (": " ++ missingFile))) m

/-- Make a function of the program in a file. -/
def loadFileFunction : String × Native :=
  native "loadfile" (fun c => do
    let name ← c.optional 1 none fun i => (c.str i).map some
    return (name, ← c.optional 2 (Bytes.ofText "bt") c.str, c.arg? 3))
    fun (name, kinds, globals) => loadFile name kinds globals loadResult

/-- Run the program in a file. -/
def runFileFunction : String × Native :=
  native "dofile" (fun c => c.optional 1 none fun i => (c.str i).map some) fun name =>
    loadFile name (Bytes.ofText "bt") none fun result =>
      match result with
      | .ok f => visitValue f [] finish
      | .error message => raiseHere message

/-- The functions of programs. -/
def programFunctions : List (String × Native) := [loadFunction, loadFileFunction, runFileFunction]

end Folio.Lua
