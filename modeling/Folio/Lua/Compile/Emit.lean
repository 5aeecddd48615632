import Folio.Lua.Compile.Scope

/-!
# Emission

Instructions, jumps, registers and constants of the function that is being compiled.

A jump that does not know yet where it leads is kept in a list until it does.

Main definitions:
- `Lua.Compile.emit`
- `Lua.Compile.emitJump`, `Lua.Compile.patch`, `Lua.Compile.patchToHere`: jumps
- `Lua.Compile.reserve`, `Lua.Compile.free`: registers
- `Lua.Compile.constant`: constants
-/

namespace Folio.Lua.Compile

/-! ## Section 1: Instructions -/

/-- Add an instruction, which belongs to the line of the token before; its place. -/
def emit (i : Instruction) : Compile Nat := do
  let b ← get
  let place := b.current.code.size
  modify fun b =>
    { b with current :=
        { b.current with code := b.current.code.push i, lines := b.current.lines.push b.lastLine } }
  return place

/-- Add an instruction. -/
def emitOnly (i : Instruction) : Compile Unit := discard (emit i)

/-- Give the last instruction another line. -/
def setLine (line : Nat) : Compile Unit := modifyCurrent fun f =>
  { f with lines := f.lines.setIfInBounds (f.lines.size - 1) line }

/-- The instruction at a place. -/
def instructionAt (place : Nat) : Compile Instruction := do
  return ((← current).code[place]?).getD default

/-- Change the instruction at a place. -/
def modifyAt (place : Nat) (f : Instruction → Instruction) : Compile Unit := modifyCurrent fun s =>
  { s with code := s.code.modify place f }

/-- The last instruction, unless a jump leads behind it. -/
def previous? : Compile (Option Instruction) := do
  let f ← current
  return if f.code.size > f.lastTarget then f.code[f.code.size - 1]? else none

/-- Take the last instruction back. -/
def dropLast : Compile Unit := modifyCurrent fun f =>
  { f with code := f.code.pop, lines := f.lines.pop }

/-- Set registers in a row to `nil`. Neighbours that are set just before are set at once. -/
def emitNil (first count : Nat) : Compile Unit := do
  let last := first + count - 1
  match ← previous? with
  | some (.loadNil start more) =>
      let stop := start + more
      if (start ≤ first && first ≤ stop + 1) || (first ≤ start && start ≤ last + 1) then
        let first := min first start
        let last := max last stop
        let place := (← current).code.size - 1
        modifyAt place fun _ => .loadNil first (last - first)
      else emitOnly (.loadNil first (count - 1))
  | _ => emitOnly (.loadNil first (count - 1))

/-! ## Section 2: Jumps -/

/-- The place of the next instruction, to which a jump leads. -/
def here : Compile Nat := do
  let place := (← current).code.size
  modifyCurrent fun f => { f with lastTarget := place }
  return place

/-- A jump that does not know where it leads. -/
def emitJump : Compile Nat := emit (.jump 0)

/-- A test with the jump after it. -/
def emitTest (i : Instruction) : Compile Nat := do
  emitOnly i
  emitJump

/-- The place of the test that decides on a jump, or of the jump itself. -/
def controlOf (jump : Nat) : Compile Nat := do
  if jump > 0 && (← instructionAt (jump - 1)).isTest then return jump - 1
  return jump

/-- Let the test of a jump copy its value to a register, or copy nothing. Whether it is a test that
can copy. -/
def patchTest (register : Option Nat) (jump : Nat) : Compile Bool := do
  let place ← controlOf jump
  match ← instructionAt place with
  | .testSet _ source expected =>
      match register with
      | some r =>
          if r ≠ source then modifyAt place fun _ => .testSet r source expected
          else modifyAt place fun _ => .test source expected
      | none => modifyAt place fun _ => .test source expected
      return true
  | _ => return false

/-- Let tests copy nothing. -/
def removeValues (jumps : List Nat) : Compile Unit := jumps.forM fun j => discard (patchTest none j)

/-- Let jumps lead to a place. -/
def setJumps (jumps : List Nat) (target : Nat) : Compile Unit :=
  jumps.forM fun j => modifyAt j fun i => i.withJump target

/-- Let jumps lead to a place if their tests copy their values to a register, and otherwise to
another place. -/
def patchValues (jumps : List Nat) (copied : Nat) (register : Option Nat) (other : Nat) :
    Compile Unit :=
  jumps.forM fun j => do
    let target := if ← patchTest register j then copied else other
    modifyAt j fun i => i.withJump target

/-- Let jumps lead to a place. -/
def patch (jumps : List Nat) (target : Nat) : Compile Unit := patchValues jumps target none target

/-- Let jumps lead to the next instruction. -/
def patchToHere (jumps : List Nat) : Compile Unit := do patch jumps (← here)

/-- Whether some jump comes from a test that does not copy its value. -/
def needsValue (jumps : List Nat) : Compile Bool := jumps.anyM fun j => do
  match ← instructionAt (← controlOf j) with
  | .testSet .. => return false
  | _ => return true

/-! ## Section 3: Registers -/

/-- How many registers a function can have. -/
def maxRegisters : Nat := 255

/-- Make sure that there are registers for a number of values. -/
def checkRegisters (count : Nat) : Compile Unit := do
  let f ← current
  let needed := f.free + count
  if needed > f.registers then
    if needed ≥ maxRegisters then fail .tooManyRegisters
    modifyCurrent fun f => { f with registers := needed }

/-- Take registers in a row. -/
def reserve (count : Nat) : Compile Unit := do
  checkRegisters count
  modifyCurrent fun f => { f with free := f.free + count }

/-- Give a register back, unless a variable is in it. -/
def free (register : Nat) : Compile Unit := do
  if register ≥ (← variableLevel) then modifyCurrent fun f => { f with free := f.free - 1 }

/-! ## Section 4: Constants -/

/-- A constant; its place. -/
def constant (v : Val) : Compile Nat := do
  let key : ConstantKey := match v with
    | .str s => .str s
    | .int n => .int n
    | .float x => .bits x.toBits
    | .bool b => .bool b
    | _ => .nil
  let f ← current
  match f.constantPlaces[key]? with
  | some place => return place
  | none =>
      let place := f.constants.size
      modifyCurrent fun f =>
        { f with
          constants := f.constants.push v
          constantPlaces := f.constantPlaces.insert key place }
      return place

end Folio.Lua.Compile
