import Folio.Lua.Value

/-!
# Nodes of tables

The keys of a table that are no items stand in nodes with their values. The place of a node comes from
its key: a key whose main place is taken goes to a free one, and the nodes of one main place form a
chain.

Main definitions:
- `Lua.Node`
- `Lua.Nodes.mainPlace`: the place that comes from a key
- `Lua.Nodes.findFrom`: the place of a key in a chain
- `Lua.Nodes.overwrite`, `append`, `displace`: how a new key is put into a node
-/

namespace Folio.Lua

/-! ## Section 1: Places of keys -/

/-- A key with its value. -/
structure Node where
  key : Val := .nil
  value : Val := .nil
  /-- The place of the next node of the chain, counted from one; zero at the end. -/
  next : Nat := 0
deriving Inhabited

/-- The least exponent of a power of two that is not below a number. -/
def ceilLog2 (n : Nat) : Nat := if n ≤ 1 then 0 else Nat.log2 (n - 1) + 1

/-- What a double contributes to its place. -/
def floatPlace (x : Float) : Nat :=
  match Binary64.parts x with
  | .finite negative m q =>
      if m = 0 then 0
      else
        let bits := Nat.log2 m + 1
        let mantissa : Int := (m * Nat.pow 2 31 / Nat.pow 2 bits : Nat)
        let sum : Int := (q + bits) + (if negative then -mantissa else mantissa)
        let n := (sum % (Nat.pow 2 32 : Nat)).toNat
        if n < Nat.pow 2 31 then n else Nat.pow 2 32 - 1 - n
  | _ => 0

namespace Nodes

/-- The main place of a key among a number of nodes, which is a power of two. -/
def mainPlace (size : Nat) (key : Val) : Nat :=
  let modulus := (size - 1) ||| 1
  match key with
  | .int n => (n.toUInt64 % UInt64.ofNat modulus).toNat
  | .str s => s.mixed.toNat &&& (size - 1)
  | .bool b => if b then 1 &&& (size - 1) else 0
  | .float x => floatPlace x % modulus
  | .table id => (4 * id) % modulus
  | .function id => (4 * id + 1) % modulus
  | .thread id => (4 * id + 2) % modulus
  | .file id => (4 * id + 3) % modulus
  | .nil | .null => 0

/-! ## Section 2: Chains -/

/-- The place of a key in the chain that goes through a place. -/
def findFrom (nodes : Array Node) (key : Val) : Nat → Nat → Option Nat
  | 0, _ => none
  | fuel + 1, place =>
      match nodes[place]? with
      | none => none
      | some node =>
          if node.key.identical key then some place
          else if node.next = 0 then none
          else findFrom nodes key fuel (node.next - 1)

/-- The last free place before a place. -/
def freePlace? (nodes : Array Node) : Nat → Option Nat
  | 0 => none
  | place + 1 =>
      match nodes[place]? with
      | some ⟨.nil, _, _⟩ => some place
      | _ => freePlace? nodes place

/-- The place in a chain before a place. -/
def placeBefore (nodes : Array Node) (target : Nat) : Nat → Nat → Nat
  | 0, place => place
  | fuel + 1, place =>
      match nodes[place]? with
      | none => place
      | some node =>
          if node.next = target + 1 || node.next = 0 then place
          else placeBefore nodes target fuel (node.next - 1)

/-! ## Section 3: New keys -/

/-- Put a key into its main place, where there is no value. -/
def overwrite (nodes : Array Node) (main : Nat) (key value : Val) : Array Node :=
  let taken : Node := nodes[main]?.getD {}
  nodes.setIfInBounds main { taken with key, value }

/-- Put a key into a free place, behind the first node of its chain. -/
def append (nodes : Array Node) (main free : Nat) (key value : Val) : Array Node :=
  let taken : Node := nodes[main]?.getD {}
  let nodes := nodes.setIfInBounds free { key, value, next := taken.next }
  nodes.setIfInBounds main { taken with next := free + 1 }

/-- Put a key into its main place. The node that is there belongs to another chain, which begins
elsewhere, and moves to a free place. -/
def displace (nodes : Array Node) (main other free : Nat) (key value : Val) : Array Node :=
  let taken : Node := nodes[main]?.getD {}
  let before := placeBefore nodes main nodes.size other
  let nodes := nodes.modify before fun node => { node with next := free + 1 }
  (nodes.setIfInBounds free taken).setIfInBounds main { key, value }

end Nodes

end Folio.Lua
