import Folio.Lua.Number

/-!
# Values

The values of a running program. Tables, functions, threads and files have identity: a value names
one of them, and the memory holds what it is.

Main definitions:
- `Lua.Val`: values
- `Lua.Val.same`: equality without metatables
- `Lua.Val.identical`: equality that tells integers and doubles apart
-/

namespace Folio.Lua

/-- A value. -/
inductive Val where
  | nil
  | bool (b : Bool)
  | int (n : Int64)
  | float (x : Float)
  | str (s : Bytes)
  | table (id : Nat)
  | function (id : Nat)
  | thread (id : Nat)
  | file (id : Nat)
  /-- The null value of a document, which is not `nil`. -/
  | null
deriving Inhabited

namespace Val

/-! ## Section 1: Making values -/

/-- A text as a value. -/
def ofText (s : String) : Val := .str (Bytes.ofText s)

/-- A natural number as a value. -/
def ofNat (n : Nat) : Val := .int (Int64.ofNat n)

/-- A number as a value. -/
def ofNumber : Number → Val
  | .int n => .int n
  | .float x => .float x

/-! ## Section 2: Kinds of values -/

/-- Whether a value is neither `nil` nor false. -/
def isTrue : Val → Bool
  | .nil | .bool false => false
  | _ => true

/-- Whether a value is `nil`. -/
def isNil : Val → Bool
  | .nil => true
  | _ => false

/-- Whether a value is a function. -/
def isFunction : Val → Bool
  | .function _ => true
  | _ => false

/-- The name of the type of a value. -/
def typeName : Val → String
  | .nil => "nil"
  | .bool _ => "boolean"
  | .int _ | .float _ => "number"
  | .str _ => "string"
  | .table _ => "table"
  | .function _ => "function"
  | .thread _ => "thread"
  | .file _ | .null => "userdata"

/-! ## Section 3: Numbers and strings -/

/-- A value that is a number. -/
def number? : Val → Option Number
  | .int n => some (.int n)
  | .float x => some (.float x)
  | _ => none

/-- A value that is a number, or a string that is one. -/
def toNumber? : Val → Option Number
  | .int n => some (.int n)
  | .float x => some (.float x)
  | .str s => Number.ofChars? s.chars
  | _ => none

/-- A value that is an integer, or a number that equals one. -/
def exactInt? : Val → Option Int64
  | .int n => some n
  | .float x => Lua.exactInt? x
  | _ => none

/-- A value that is an integer, or a number or a string that equals one. -/
def toInt? (v : Val) : Option Int64 := v.toNumber?.bind Number.toInt?

/-- A value that is a string, or a number as its text. -/
def toStr? : Val → Option Bytes
  | .str s => some s
  | .int n => some (Bytes.ofText (Number.int n).text)
  | .float x => some (Bytes.ofText (Number.float x).text)
  | _ => none

/-! ## Section 4: Equality -/

/-- Equality of values, without metatables. -/
def same : Val → Val → Bool
  | .nil, .nil => true
  | .bool a, .bool b => a = b
  | .int a, .int b => a = b
  | .float a, .float b => a == b
  | .int a, .float b => Lua.exactInt? b = some a
  | .float a, .int b => Lua.exactInt? a = some b
  | .str a, .str b => a == b
  | .table a, .table b => a = b
  | .function a, .function b => a = b
  | .thread a, .thread b => a = b
  | .file a, .file b => a = b
  | .null, .null => true
  | _, _ => false

/-- Equality of values of one kind: an integer is no double. -/
def identical : Val → Val → Bool
  | .int _, .float _ | .float _, .int _ => false
  | a, b => a.same b

theorem identical_str {a b : Bytes} : (str a).identical (str b) ↔ a = b := by
  have beq : (str a).identical (str b) = (a.data == b.data) := rfl
  rw [beq, beq_iff_eq]
  exact ⟨ByteArray.ext, congrArg ByteArray.data⟩

/-- A value as the key that it is in tables: a double that equals an integer is that integer. -/
def normalKey (v : Val) : Val :=
  match v with
  | .float x =>
      match Lua.exactInt? x with
      | some n => .int n
      | none => v
  | _ => v

end Val

end Folio.Lua
