import Folio.Lua.Chain

/-!
# Tables

A table maps keys to values. The values of the keys 1, 2, … up to some number are items, which stand in
order; the other keys stand in nodes. When no node is free for a new key, the table grows: it then has
as many items as more than half of which are used.

Which of several borders is the length, and in what order a traversal meets the keys, is decided by
all this.

Main definitions:
- `Lua.Table`, with `get`, `set`, `length` and `next?`
- `Lua.Table.resize`: a table with another number of items and nodes
-/

namespace Folio.Lua

/-! ## Section 1: Values of keys -/

/-- A table. -/
structure Table where
  /-- The values of the keys from one on. -/
  items : Array Val := #[]
  /-- Where the search for the length begins. -/
  hint : Nat := 0
  /-- Nodes, of which there are none or a power of two. -/
  nodes : Array Node := #[]
  /-- No place from this one on is free. -/
  lastFree : Nat := 0
  /-- The metatable, which is a table. -/
  metatable : Option Nat := none
  sound : Nodes.Sound nodes lastFree := by exact Nodes.sound_empty

instance : Inhabited Table := ⟨{}⟩

namespace Table

open Nodes

/-- The place of a key among the nodes. -/
def find? (t : Table) (key : Val) : Option Nat :=
  if t.nodes.isEmpty || key.isNil then none
  else findFrom t.nodes key (t.nodes.size + 1) (mainPlace t.nodes.size key)

/-- The place of a key among the items. -/
def itemPlace? (t : Table) (key : Val) : Option Nat :=
  match key with
  | .int n =>
      let i := (n - 1).toUInt64
      if i < UInt64.ofNat t.items.size then some i.toNat else none
  | _ => none

/-- The value of a key that stands among the nodes. -/
def nodeValue (t : Table) (key : Val) : Val :=
  match t.find? key with
  | some place =>
      match t.nodes[place]? with
      | some node => node.value
      | none => .nil
  | none => .nil

/-- The value of an integer. -/
def getInt (t : Table) (n : Int64) : Val :=
  let i := (n - 1).toUInt64
  if i < UInt64.ofNat t.items.size then (t.items[i.toNat]?).getD .nil else t.nodeValue (.int n)

/-- The value of a key. -/
def get (t : Table) (key : Val) : Val :=
  match key with
  | .int n => t.getInt n
  | .str _ => t.nodeValue key
  | .nil => .nil
  | .float _ =>
      match key.normalKey with
      | .int n => t.getInt n
      | key => t.nodeValue key
  | _ => t.nodeValue key

/-- The value of a name. -/
def getName (t : Table) (name : String) : Val := t.nodeValue (.ofText name)

/-- Whether the hint moves when the value of a key is read: a read among the items behind it makes it
likely that the length is there. -/
def hintAfterGet? (t : Table) (key : Val) : Option Nat :=
  if t.hint = t.items.size then none
  else
    match key.normalKey with
    | .int n =>
        let i := (n - 1).toUInt64.toNat
        if t.hint ≤ i && i < t.items.size then some (i + 1) else none
    | _ => none

/-! ## Section 2: New keys -/

theorem keyAt_of_find? {t : Table} {key : Val} {place : Nat} (found : t.find? key = some place) :
    place < t.nodes.size ∧ (keyAt t.nodes place).identical key ∧ keyAt t.nodes place ≠ .nil := by
  unfold find? at found
  split at found
  · cases found
  · rename_i present
    obtain ⟨inside, same⟩ := findFrom_eq_some found
    refine ⟨inside, same, fun unused => ?_⟩
    rw [unused] at same
    cases key <;> simp_all [Val.isNil, Val.identical, Val.same]

/-- A name that is not found is nowhere. -/
theorem absent_of_find? {t : Table} {key : Val} (absent : t.find? key = none) (s : Bytes) (p : Nat)
    (named : key = .str s) : keyAt t.nodes p ≠ .str s := by
  intro there
  have present : keyAt t.nodes p ≠ .nil := there ▸ nofun
  have nonempty : ¬ t.nodes.isEmpty := by
    rw [Array.isEmpty_iff_size_eq_zero]
    have := lt_size_of_keyAt present
    omega
  refine t.sound.findFrom_ne_none present ?_ ?_
  · rw [there]
    exact Val.identical_str.mpr rfl
  · simpa [find?, named, nonempty, Val.isNil, there] using absent

section

variable {t : Table} {key value : Val} {free : Nat}

theorem mainPlace_lt_of_room (room : ¬ (t.nodes.isEmpty || key.isNil)) :
    mainPlace t.nodes.size key < t.nodes.size ∧ key ≠ .nil := by
  rw [Bool.or_eq_true, not_or, Array.isEmpty_iff_size_eq_zero] at room
  refine ⟨mainPlace_lt (Nat.pos_of_ne_zero room.1) key, fun same => room.2 (same ▸ rfl)⟩

theorem sound_overwrite (absent : t.find? key = none) (room : ¬ (t.nodes.isEmpty || key.isNil)) :
    Sound (overwrite t.nodes (mainPlace t.nodes.size key) key value) t.lastFree := by
  obtain ⟨inside, notNil⟩ := mainPlace_lt_of_room room
  exact t.sound.overwrite rfl inside notNil fun s p => absent_of_find? absent s p

/-- What has a value has a key. -/
theorem keyAt_of_value {p : Nat} (valued : ¬ (t.nodes[p]?.getD {}).value.isNil) :
    keyAt t.nodes p ≠ .nil := by
  intro unused
  have nothing : (t.nodes[p]?.getD {}).value = .nil := (t.sound.free p unused).1
  rw [nothing] at valued
  exact valued rfl

theorem unused_of_freePlace? (found : freePlace? t.nodes t.lastFree = some free) :
    free < t.nodes.size ∧ keyAt t.nodes free = .nil
      ∧ ∀ p, free < p → p < t.nodes.size → keyAt t.nodes p ≠ .nil := by
  obtain ⟨within, unused, others⟩ := freePlace?_eq_some found
  refine ⟨within, unused, fun p greater inside => ?_⟩
  by_cases less : p < t.lastFree
  · exact others p greater less inside
  · exact t.sound.full p (Nat.le_of_not_lt less) inside

theorem sound_append (absent : t.find? key = none) (room : ¬ (t.nodes.isEmpty || key.isNil))
    (found : freePlace? t.nodes t.lastFree = some free) :
    let main := mainPlace t.nodes.size key
    let taken : Node := t.nodes[main]?.getD {}
    ¬ taken.value.isNil → ¬ mainPlace t.nodes.size taken.key ≠ main →
      Sound (append t.nodes main free key value) free := by
  intro main taken valued same
  obtain ⟨inside, notNil⟩ := mainPlace_lt_of_room room
  obtain ⟨within, unused, others⟩ := unused_of_freePlace? found
  exact t.sound.append rfl inside notNil (fun s p => absent_of_find? absent s p)
    (Decidable.not_not.mp same) (keyAt_of_value valued) within unused others

theorem sound_displace (absent : t.find? key = none) (room : ¬ (t.nodes.isEmpty || key.isNil))
    (found : freePlace? t.nodes t.lastFree = some free) :
    let main := mainPlace t.nodes.size key
    let taken : Node := t.nodes[main]?.getD {}
    let other := mainPlace t.nodes.size taken.key
    ¬ taken.value.isNil → other ≠ main →
      Sound (displace t.nodes main other free key value) free := by
  intro main taken other valued apart
  obtain ⟨inside, notNil⟩ := mainPlace_lt_of_room room
  obtain ⟨within, unused, others⟩ := unused_of_freePlace? found
  exact t.sound.displace rfl inside notNil (fun s p => absent_of_find? absent s p) rfl apart
    (keyAt_of_value valued) within unused others

end

/-- Put a new key into a node, and tell whether there was a free place for it. -/
def place (t : Table) (key value : Val) (absent : t.find? key = none) : Bool × Table :=
  if room : t.nodes.isEmpty || key.isNil then (false, t)
  else
    let main := mainPlace t.nodes.size key
    let taken : Node := (t.nodes[main]?).getD {}
    if valued : taken.value.isNil then
      (true, { t with
        nodes := overwrite t.nodes main key value
        sound := sound_overwrite absent room })
    else
      match found : freePlace? t.nodes t.lastFree with
      | none => (false, t)
      | some free =>
          let other := mainPlace t.nodes.size taken.key
          if apart : other ≠ main then
            (true, { t with
              nodes := displace t.nodes main other free key value
              lastFree := free
              sound := sound_displace absent room found valued apart })
          else
            (true, { t with
              nodes := append t.nodes main free key value
              lastFree := free
              sound := sound_append absent room found valued apart })

/-- Set the value of a key that has a node. -/
def setNode (t : Table) {key : Val} {place : Nat} (found : t.find? key = some place) (value : Val) :
    Table :=
  { t with
    nodes := t.nodes.modify place fun node => { node with value }
    sound := t.sound.setValue (keyAt_of_find? found).2.2 }

/-- Set the value of a key for which there is room. -/
def setInRoom (t : Table) (key value : Val) : Table :=
  match t.itemPlace? key with
  | some place => { t with items := t.items.setIfInBounds place value }
  | none =>
      match found : t.find? key with
      | some _ => t.setNode found value
      | none => (t.place key value found).2

/-- Take entries out. An item counts as one without a key. -/
def clear (t : Table) (goes : Val → Val → Bool) : Table :=
  { t with
    items := t.items.map fun v => if goes .nil v then .nil else v
    nodes := t.nodes.map fun node =>
      if goes node.key node.value then { node with value := .nil } else node
    sound := t.sound.clear goes }

/-! ## Section 3: Growth -/

/-- Free nodes for a number of keys. -/
def freshNodes (count : Nat) : Array Node :=
  if count = 0 then #[] else Array.replicate (Nat.pow 2 (ceilLog2 count)) {}

theorem sound_freshNodes (count : Nat) : Sound (freshNodes count) (freshNodes count).size := by
  unfold freshNodes
  split
  · exact sound_empty
  · rw [Array.size_replicate]
    exact sound_replicate _

/-- A table with another number of items, and with nodes for a number of keys. -/
def resize (t : Table) (itemCount nodeCount : Nat) : Table :=
  let nodes := freshNodes nodeCount
  let fresh : Table :=
    { t with items := #[], hint := 0, nodes, lastFree := nodes.size, sound := sound_freshNodes _ }
  -- items that no longer are items come first
  let fresh := (List.range (t.items.size - itemCount)).foldl (fun (fresh : Table) i =>
    let v := (t.items[itemCount + i]?).getD .nil
    if v.isNil then fresh else fresh.setInRoom (.ofNat (itemCount + i + 1)) v) fresh
  let items := t.items.take itemCount
  let items := items ++ Array.replicate (itemCount - items.size) .nil
  t.nodes.foldl (fun (fresh : Table) node =>
    if node.value.isNil then fresh else fresh.setInRoom node.key node.value)
    { fresh with items, hint := itemCount }

/-- For every exponent, how many of some keys lie above half of its power of two and not above the
power. -/
abbrev Census := Array Nat

/-- Count a key. -/
def countKey (census : Census) (key : Val) : Census :=
  match key with
  | .int n =>
      let n := n.toInt
      if 1 ≤ n && n ≤ Nat.pow 2 31 then census.modify (ceilLog2 n.toNat) (· + 1) else census
  | _ => census

/-- Count the keys of items from a place on. -/
def countItems (items : Array Val) : Nat → Nat → Census → Census
  | 0, _, census => census
  | fuel + 1, place, census =>
      match items[place]? with
      | none => census
      | some v =>
          countItems items fuel (place + 1)
            (if v.isNil then census else census.modify (ceilLog2 (place + 1)) (· + 1))

/-- The greatest power of two of which more than half is used, and how many keys are up to there. -/
def bestSize (census : Census) (total : Nat) : Nat × Nat :=
  let step (state : Nat × Nat × Nat) (i : Nat) : Nat × Nat × Nat :=
    let (sum, size, used) := state
    let bound := Nat.pow 2 i
    if total > bound / 2 then
      let sum := sum + (census[i]?).getD 0
      if sum > bound / 2 then (sum, bound, sum) else (sum, size, used)
    else state
  ((List.range 32).foldl step (0, 0, 0)).2

/-- A table with room for one more key. -/
def grow (t : Table) (key : Val) : Table :=
  let census := countItems t.items (t.items.size + 1) 0 (Array.replicate 33 0)
  let itemsUsed := t.items.foldl (fun n v => if v.isNil then n else n + 1) 0
  let nodesUsed := t.nodes.foldl (fun n node => if node.value.isNil then n else n + 1) 0
  let census := t.nodes.foldl (fun census node =>
    if node.value.isNil then census else countKey census node.key) census
  let census := countKey census key
  let (size, inItems) := bestSize census (census.foldl (· + ·) 0)
  t.resize size (itemsUsed + nodesUsed + 1 - inItems)

/-- Set the value of a key, which is neither `nil` nor a double that equals an integer or nothing. The
hint moves as it does when the value is read. -/
def setKey (t : Table) (key value : Val) : Table :=
  match t.itemPlace? key with
  | some place =>
      let items := t.items.setIfInBounds place value
      let hint := max t.hint (min (place + 1) items.size)
      { t with items, hint }
  | none =>
      match found : t.find? key with
      | some _ => t.setNode found value
      | none =>
          if value.isNil then t
          else
            match t.place key value found with
            | (true, t) => t
            | (false, t) => (t.grow key).setInRoom key value

/-- Set the value of a key. -/
def set (t : Table) (key value : Val) : Table := t.setKey key.normalKey value

/-- Set the value of a name. -/
def setName (t : Table) (name : String) (value : Val) : Table := t.setKey (.ofText name) value

/-- Why something is no key. -/
inductive KeyFault where
  | nil
  | nan
deriving DecidableEq, Inhabited

/-- The wording of a fault. -/
def KeyFault.message : KeyFault → String
  | .nil => "table index is nil"
  | .nan => "table index is NaN"

/-- Why a value is no key, if it is none. -/
def keyFault? : Val → Option KeyFault
  | .nil => some .nil
  | .float x => if x.isNaN then some .nan else none
  | _ => none

/-- Room for a number of items at least, with the nodes that there are. -/
def withItems (t : Table) (count : Nat) : Table :=
  if count > t.items.size then t.resize count t.nodes.size else t

/-- A table of items. -/
def ofItems (items : Array Val) : Table := { items, hint := items.size }

/-! ## Section 4: Length -/

/-- Whether an item is missing. Items are counted from one. -/
def lacks (t : Table) (i : Nat) : Bool :=
  match t.items[i - 1]? with
  | some v => v.isNil
  | none => true

/-- A border between two numbers: the first one has a value or is zero, the second one has none. -/
def borderBetween (absent : Nat → Bool) : Nat → Nat → Nat → Nat
  | 0, low, _ => low
  | fuel + 1, low, high =>
      if high ≤ low + 1 then low
      else
        let middle := (low + high) / 2
        if absent middle then borderBetween absent fuel low middle
        else borderBetween absent fuel middle high

/-- Whether a number is zero or a power of two. -/
def isPowerOfTwo (n : Nat) : Bool := n &&& (n - 1) = 0

/-- The greatest integer as a key. -/
def greatestKey : Nat := Nat.pow 2 63 - 1

/-- Double a number that has a value until one has none; the last two of them. -/
def doubling (absent : Nat → Bool) : Nat → Nat → Nat × Option Nat
  | 0, i => (i, none)
  | fuel + 1, i =>
      if i ≤ greatestKey / 2 then
        if absent (i * 2) then (i, some (i * 2)) else doubling absent fuel (i * 2)
      else if absent greatestKey then (i, some greatestKey)
      else (greatestKey, none)

/-- A border behind a number of items that is all used, if the next key is used too. -/
def borderBehind (t : Table) (count : Nat) : Nat :=
  let absent (i : Nat) : Bool := (t.getInt (Int64.ofNat i)).isNil
  match doubling absent 64 (max count 1) with
  | (i, some j) => borderBetween absent 64 i j
  | (i, none) => i

/-- The length, which is a border: a number that has a value, or zero, so that the next one has none.
With the hint for the next time. -/
def lengthAndHint (t : Table) : Nat × Nat :=
  let size := t.items.size
  let search (low high : Nat) : Nat := borderBetween t.lacks (size + 1) low high
  let behind (hint : Nat) : Nat × Nat :=
    if t.nodes.isEmpty || (t.getInt (Int64.ofNat (size + 1))).isNil then (size, hint)
    else (t.borderBehind size, hint)
  if t.hint > 0 && t.lacks t.hint then
    if t.hint ≥ 2 && !t.lacks (t.hint - 1) then
      let n := t.hint - 1
      (n, if isPowerOfTwo size && !isPowerOfTwo n then n else t.hint)
    else
      let n := search 0 t.hint
      (n, if isPowerOfTwo size && n > size / 2 then n else t.hint)
  else if t.hint < size then
    if t.lacks (t.hint + 1) then (t.hint, t.hint)
    else if t.lacks size then
      let n := search t.hint size
      (n, n)
    else behind t.hint
  else behind t.hint

/-- The length. -/
def length (t : Table) : Nat := t.lengthAndHint.1

/-! ## Section 5: Traversal -/

/-- The first item with a value from a place on, with its key. -/
def nextItem (t : Table) : Nat → Nat → Option (Val × Val)
  | 0, _ => none
  | fuel + 1, place =>
      match t.items[place]? with
      | none => none
      | some .nil => nextItem t fuel (place + 1)
      | some v => some (.ofNat (place + 1), v)

/-- The first node with a value from a place on. -/
def nextNode (t : Table) : Nat → Nat → Option (Val × Val)
  | 0, _ => none
  | fuel + 1, place =>
      match t.nodes[place]? with
      | none => none
      | some ⟨_, .nil, _⟩ => nextNode t fuel (place + 1)
      | some ⟨k, v, _⟩ => some (k, v)

/-- The key and value after a key, or the first ones after `nil`; nothing at the end. The outer
nothing is for a key that the table does not have. -/
def next? (t : Table) (key : Val) : Option (Option (Val × Val)) :=
  let fromItem (place : Nat) : Option (Val × Val) :=
    (t.nextItem (t.items.size + 1) place).or (t.nextNode (t.nodes.size + 1) 0)
  if key.isNil then some (fromItem 0)
  else
    match t.itemPlace? key with
    | some place => some (fromItem (place + 1))
    | none => (t.find? key).map fun place => t.nextNode (t.nodes.size + 1) (place + 1)

end Table

end Folio.Lua
