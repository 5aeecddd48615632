import Folio.Lua.Instruction

/-!
# Names in messages

A message about a value says which variable or field the value came from, if that is plain from the
instructions: the register that holds it is followed back to the instruction that set it last. What is
set under a condition is not known.

Main definitions:
- `Lua.Prototype.nameOf?`: the name of what is in a register
- `Lua.Prototype.callName?`: the name of a function that an instruction calls
-/

namespace Folio.Lua

/-- What a name is the name of, and the name. -/
structure Naming where
  kind : String
  name : Bytes
deriving Inhabited

/-- A name in a message about a value. -/
def Naming.text (n : Naming) : Bytes :=
  Bytes.ofText (" (" ++ n.kind ++ " '") ++ n.name ++ Bytes.ofText "')"

namespace Prototype

/-! ## Section 1: Registers -/

/-- Whether an instruction sets a register. -/
def sets (i : Instruction) (register : Nat) : Bool :=
  match i with
  | .loadNil first more => first ≤ register && register ≤ first + more
  | .genericCall base _ => register ≥ base + 2
  | .call f _ _ | .tailCall f _ _ => register ≥ f
  | i => i.result? = some register

/-- The instruction before a place that set a register last, from a place on. Code before the target
of a jump is run under a condition. -/
def setterFrom (p : Prototype) (last register : Nat) :
    Nat → Nat → Nat → Option Nat → Option Nat
  | 0, _, _, setter => setter
  | fuel + 1, place, jumpTarget, setter =>
      if place ≥ last then setter
      else
        let i := p.code.getD place default
        match i with
        | .jump target =>
            let forward := target ≤ last && target > jumpTarget
            setterFrom p last register fuel (place + 1) (if forward then target else jumpTarget) setter
        | _ =>
            let setter := if sets i register then
              (if place < jumpTarget then none else some place) else setter
            setterFrom p last register fuel (place + 1) jumpTarget setter

/-- The instruction that set a register last, before an instruction. -/
def setter? (p : Prototype) (place register : Nat) : Option Nat :=
  let last := if (p.code.getD place default).asksMeta then place - 1 else place
  setterFrom p last register (last + 1) 0 0 none

/-! ## Section 2: Names -/

/-- A constant as a name: a string, or a question mark. -/
def constantName (p : Prototype) (k : Nat) : Bytes :=
  match p.constants[k]? with
  | some (.str s) => s
  | _ => Bytes.ofText "?"

/-- The name of an outer variable. -/
def outerName (p : Prototype) (place : Nat) : String :=
  ((p.outers[place]?).map OuterVariable.name).getD "?"

/-- The name of what is in a register without regard to fields, or else the instruction that set it.
Each step goes to an earlier instruction. -/
def basicName (p : Prototype) : Nat → Nat → Nat → Option Naming × Option Nat
  | 0, _, _ => (none, none)
  | fuel + 1, place, register =>
      match p.localName? register place with
      | some name => (some ⟨"local", Bytes.ofText name⟩, none)
      | none =>
          match p.setter? place register with
          | none => (none, none)
          | some setter =>
              match p.code.getD setter default with
              | .move target source =>
                  if source < target then basicName p fuel setter source else (none, some setter)
              | .getOuter _ outer =>
                  (some ⟨"upvalue", Bytes.ofText (p.outerName outer)⟩, some setter)
              | .loadConstant _ k =>
                  match p.constants[k]? with
                  | some (.str s) => (some ⟨"constant", s⟩, some setter)
                  | _ => (none, some setter)
              | _ => (none, some setter)

/-- The steps that are enough to follow a register back. -/
def steps (p : Prototype) : Nat := p.code.size + 1

/-- A register as the name of a field: a constant string, or a question mark. -/
def registerName (p : Prototype) (place register : Nat) : Bytes :=
  match p.basicName p.steps place register with
  | (some ⟨"constant", name⟩, _) => name
  | _ => Bytes.ofText "?"

/-- Whether something is the table of global variables, by its name. -/
def fieldKind (isGlobals : Bool) : String := if isGlobals then "global" else "field"

/-- Whether a register is the table of global variables. -/
def isGlobals (p : Prototype) (place register : Nat) : Bool :=
  match p.basicName p.steps place register with
  | (some ⟨kind, name⟩, _) => (kind == "local" || kind == "upvalue") && name == Bytes.ofText "_ENV"
  | _ => false

/-- The name of what is in a register at an instruction. -/
def nameOf? (p : Prototype) (place register : Nat) : Option Naming :=
  match p.basicName p.steps place register with
  | (some n, _) => some n
  | (none, none) => none
  | (none, some setter) =>
      match p.code.getD setter default with
      | .getOuterField _ outer k =>
          some ⟨fieldKind (p.outerName outer == "_ENV"), p.constantName k⟩
      | .getIndex _ object key =>
          some ⟨fieldKind (p.isGlobals setter object), p.registerName setter key⟩
      | .getInt .. => some ⟨"field", Bytes.ofText "integer index"⟩
      | .getField _ object k => some ⟨fieldKind (p.isGlobals setter object), p.constantName k⟩
      | .method _ _ (.constant k) => some ⟨"method", p.constantName k⟩
      | .method _ _ (.register r) => some ⟨"method", p.registerName setter r⟩
      | _ => none

/-! ## Section 3: Calls -/

/-- The event for which an instruction calls a function. -/
def calledEvent? : Instruction → Option Event
  | .method .. | .getOuterField .. | .getIndex .. | .getInt .. | .getField .. => some .index
  | .setOuterField .. | .setIndex .. | .setInt .. | .setField .. => some .newIndex
  | .askMeta _ _ event | .askMetaInt _ _ event _ | .askMetaConstant _ _ event _ => some event
  | .unary .minus _ _ => some .minus
  | .unary .complement _ _ => some .complement
  | .unary .length _ _ => some .length
  | .concat .. => some .concat
  | .equal .. => some .equal
  | .order true _ _ _ => some .less
  | .order false _ _ _ => some .lessEqual
  | .orderNumber op _ _ _ =>
      match op with
      | .less | .greater => some .less
      | .lessEqual | .greaterEqual => some .lessEqual
  | .close .. | .return .. => some .close
  | _ => none

/-- The name of the function that an instruction calls. -/
def callName? (p : Prototype) (place : Nat) : Option Naming :=
  match p.code.getD place default with
  | .call f _ _ | .tailCall f _ _ => p.nameOf? place f
  | .genericCall .. => some ⟨"for iterator", Bytes.ofText "for iterator"⟩
  | i => (calledEvent? i).map fun event => ⟨"metamethod", Bytes.ofText event.name⟩

end Prototype

end Folio.Lua
