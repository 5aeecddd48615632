import Folio.Proofs.Lua.Growth
import Mathlib.Data.Finset.Card

/-!
# Names in tables

What a table has for a name is the value of the one node with that key. Where the node stands, and
what else had to move for it, cannot be seen: setting the value of a name changes that value and no
other, even when the table has to grow first.

Main definitions:
- `Lua.Nodes.freeCount`: the places that are free
- `Lua.Table.Put`: a table with the value of one key set
- `Lua.Table.refill`: entries that are put into a table

Main statements:
- `Lua.Table.put_setInRoom`: a key is put where there is room
- `Lua.Table.resize_of_room`: names keep their values when a table grows
- `Lua.Table.getName_setName`: what a name has after a value is set
-/

namespace Folio.Lua

/-! ## Section 1: Free places -/

namespace Nodes

/-- How many places are free. -/
def freeCount (nodes : Array Node) : Nat :=
  ((Finset.range nodes.size).filter fun p => (keyAt nodes p).isNil).card

theorem isNil_iff {v : Val} : v.isNil ↔ v = .nil := by cases v <;> simp [Val.isNil]

/-- At most one place is no longer free. -/
theorem freeCount_le {nodes nodes' : Array Node} (size : nodes'.size = nodes.size) (place : Nat)
    (others : ∀ p, p ≠ place → keyAt nodes p = .nil → keyAt nodes' p = .nil) :
    freeCount nodes ≤ freeCount nodes' + 1 := by
  refine le_trans (Finset.card_le_card fun p mem => ?_) (Finset.card_insert_le place _)
  simp only [Finset.mem_insert, Finset.mem_filter, Finset.mem_range, isNil_iff, size] at mem ⊢
  by_cases same : p = place
  · exact .inl same
  · exact .inr ⟨mem.1, others p same mem.2⟩

theorem freeCount_eq {nodes nodes' : Array Node} (size : nodes'.size = nodes.size)
    (keys : ∀ p, keyAt nodes' p = keyAt nodes p) : freeCount nodes' = freeCount nodes := by
  rw [freeCount, freeCount, size]
  simp only [keys]

theorem exists_free {nodes : Array Node} (room : 0 < freeCount nodes) :
    ∃ p, p < nodes.size ∧ keyAt nodes p = .nil := by
  obtain ⟨p, mem⟩ := Finset.card_pos.mp room
  simp only [Finset.mem_filter, Finset.mem_range, isNil_iff] at mem
  exact ⟨p, mem⟩

theorem keyAt_freshNodes (count p : Nat) : keyAt (Table.freshNodes count) p = .nil := by
  unfold Table.freshNodes
  split
  · rfl
  · rw [keyAt, Array.getElem?_replicate]
    split <;> rfl

theorem freeCount_freshNodes (count : Nat) : count ≤ freeCount (Table.freshNodes count) := by
  have enough : count ≤ (Table.freshNodes count).size := by
    unfold Table.freshNodes
    split
    · omega
    · rw [Array.size_replicate]
      exact Table.le_pow_of_ceilLog2_le le_rfl
  rwa [freeCount, Finset.filter_true_of_mem fun p _ => isNil_iff.mpr (keyAt_freshNodes count p),
    Finset.card_range]

end Nodes

open Nodes

namespace Table

variable {t t' : Table} {key value : Val} {s : Bytes} {p : Nat}

/-! ## Section 2: The value of a name -/

theorem identical_str_iff {v : Val} : v.identical (.str s) ↔ v = .str s := by
  cases v with
  | str a =>
    rw [Val.identical_str]
    exact ⟨congrArg _, fun same => Val.str.inj same⟩
  | _ => simp [Val.identical, Val.same]

theorem str_identical_iff {v : Val} : (Val.str s).identical v ↔ v = .str s := by
  cases v with
  | str a =>
    rw [Val.identical_str]
    exact ⟨fun same => congrArg _ same.symm, fun same => (Val.str.inj same).symm⟩
  | _ => simp [Val.identical, Val.same]

theorem find?_str_eq_some : t.find? (.str s) = some p ↔ keyAt t.nodes p = .str s := by
  constructor
  · exact fun found => identical_str_iff.mp (keyAt_of_find? found).2.1
  · intro named
    cases found : t.find? (.str s) with
    | none => exact absurd named (absent_of_find? found s p rfl)
    | some q =>
      have same : keyAt t.nodes q = .str s := identical_str_iff.mp (keyAt_of_find? found).2.1
      rw [t.sound.distinct p q s named same]

theorem nodeValue_of_keyAt (named : keyAt t.nodes p = .str s) :
    t.nodeValue (.str s) = valueAt t.nodes p := by
  have inside := lt_size_of_keyAt (named ▸ nofun : keyAt t.nodes p ≠ .nil)
  simp [nodeValue, find?_str_eq_some.mpr named, valueAt, inside]

theorem nodeValue_of_absent (absent : ∀ p, keyAt t.nodes p ≠ .str s) :
    t.nodeValue (.str s) = .nil := by
  cases found : t.find? (.str s) with
  | none => rw [nodeValue, found]
  | some p => exact absurd (find?_str_eq_some.mp found) (absent p)

theorem nodeValue_of_find?_eq_none (absent : t.find? (.str s) = none) :
    t.nodeValue (.str s) = .nil := by
  rw [nodeValue, absent]

/-- Tables whose nodes have a name at the same places, with the same values there, do not differ in
it. -/
theorem nodeValue_congr (keys : ∀ p, keyAt t'.nodes p = .str s ↔ keyAt t.nodes p = .str s)
    (values : ∀ p, keyAt t.nodes p = .str s → valueAt t'.nodes p = valueAt t.nodes p) :
    t'.nodeValue (.str s) = t.nodeValue (.str s) := by
  by_cases named : ∃ p, keyAt t.nodes p = .str s
  · obtain ⟨p, named⟩ := named
    rw [nodeValue_of_keyAt named, nodeValue_of_keyAt ((keys p).mpr named), values p named]
  · rw [not_exists] at named
    rw [nodeValue_of_absent named, nodeValue_of_absent fun p => mt (keys p).mp (named p)]

/-! ## Section 3: One key -/

/-- A table with the value of a key set, and what that costs. -/
structure Put (t t' : Table) (key value : Val) (cost : Nat) : Prop where
  items : t'.items.size = t.items.size
  metatable : t'.metatable = t.metatable
  /-- The name that is set has the value. -/
  own : ∀ s, key = .str s → t'.nodeValue (.str s) = value
  /-- No other name changes. -/
  others : ∀ s, key ≠ .str s → t'.nodeValue (.str s) = t.nodeValue (.str s)
  room : freeCount t.nodes ≤ freeCount t'.nodes + cost

theorem put_setNode (found : t.find? key = some p) : Put t (t.setNode found value) key value 0 := by
  obtain ⟨inside, same, -⟩ := keyAt_of_find? found
  have keys (q : Nat) : keyAt (t.setNode found value).nodes q = keyAt t.nodes q :=
    keyAt_modify fun _ => rfl
  have values (q : Nat) : valueAt (t.setNode found value).nodes q
      = if q = p then value else valueAt t.nodes q := by
    rw [valueAt, setNode, Array.getElem?_modify]
    by_cases here : q = p
    · subst here
      simp [inside]
    · simp [here, Ne.symm here, valueAt]
  constructor
  case items => rfl
  case metatable => rfl
  case own =>
    rintro s rfl
    rw [nodeValue_of_keyAt ((keys p).trans (identical_str_iff.mp same)), values, if_pos rfl]
  case others =>
    intro s differs
    refine nodeValue_congr (fun q => by rw [keys]) fun q named => ?_
    have elsewhere : q ≠ p := by
      rintro rfl
      rw [named] at same
      exact differs (str_identical_iff.mp same)
    rw [values, if_neg elsewhere]
  case room => exact le_of_eq (freeCount_eq Array.size_modify keys).symm

theorem put_item {place : Nat} (isItem : t.itemPlace? key = some place) :
    Put t { t with items := t.items.setIfInBounds place value } key value 0 := by
  constructor
  case items => exact Array.size_setIfInBounds
  case metatable => rfl
  case own =>
    rintro s rfl
    cases isItem
  case others => exact fun _ _ => rfl
  case room => exact Nat.le_refl _

/-- A place that is free is found. -/
theorem freePlace?_ne_none (room : 0 < freeCount t.nodes) :
    freePlace? t.nodes t.lastFree ≠ none := by
  intro nothing
  obtain ⟨p, inside, unused⟩ := exists_free room
  by_cases less : p < t.lastFree
  · exact freePlace?_eq_none nothing p less inside unused
  · exact t.sound.full p (Nat.le_of_not_lt less) inside unused

section

variable {main free other : Nat} (items : t'.items = t.items) (metatable : t'.metatable = t.metatable)
include items metatable

/-- A key is put where no value is. -/
theorem put_at {place : Nat} (size : t'.nodes.size = t.nodes.size)
    (keys : ∀ p, keyAt t'.nodes p = if p = place then key else keyAt t.nodes p)
    (values : ∀ p, valueAt t'.nodes p = if p = place then value else valueAt t.nodes p)
    (unvalued : valueAt t.nodes place = .nil) : Put t t' key value 1 := by
  constructor
  case items => rw [items]
  case metatable => exact metatable
  case own =>
    rintro s rfl
    have here : keyAt t'.nodes place = .str s := by rw [keys, if_pos rfl]
    rw [nodeValue_of_keyAt here, values, if_pos rfl]
  case others =>
    intro s differs
    by_cases gone : keyAt t.nodes place = .str s
    · -- the name had no value, and now it has no node
      rw [nodeValue_of_keyAt gone, unvalued]
      refine nodeValue_of_absent fun p named => ?_
      rw [keys] at named
      split at named
      · exact differs named
      · exact ‹p ≠ place› (t.sound.distinct p place s named gone)
    · refine nodeValue_congr (fun p => ?_) fun p named => ?_
      · by_cases here : p = place
        · subst here
          rw [keys, if_pos rfl]
          exact iff_of_false differs gone
        · rw [keys, if_neg here]
      · have elsewhere : p ≠ place := fun same => gone (same ▸ named)
        rw [values, if_neg elsewhere]
  case room =>
    refine freeCount_le size place fun p elsewhere unused => ?_
    rw [keys, if_neg elsewhere, unused]

/-- A key takes the place of another one, which moves to a free place with its value. -/
theorem put_displace (nodes : t'.nodes = displace t.nodes main other free key value)
    (inside : main < t.nodes.size) (within : free < t.nodes.size)
    (unused : keyAt t.nodes free = .nil) (taken : keyAt t.nodes main ≠ .nil) :
    Put t t' key value 1 := by
  have apart : free ≠ main := fun same => taken (same ▸ unused)
  have keys (p : Nat) : keyAt t'.nodes p
      = if p = main then key else if p = free then keyAt t.nodes main else keyAt t.nodes p :=
    nodes ▸ keyAt_displace inside within
  have values (p : Nat) : valueAt t'.nodes p
      = if p = main then value else if p = free then valueAt t.nodes main else valueAt t.nodes p :=
    nodes ▸ valueAt_displace inside within
  constructor
  case items => rw [items]
  case metatable => exact metatable
  case own =>
    rintro s rfl
    have here : keyAt t'.nodes main = .str s := by rw [keys, if_pos rfl]
    rw [nodeValue_of_keyAt here, values, if_pos rfl]
  case others =>
    intro s differs
    by_cases moved : keyAt t.nodes main = .str s
    · have here : keyAt t'.nodes free = .str s := by rw [keys, if_neg apart, if_pos rfl, moved]
      rw [nodeValue_of_keyAt moved, nodeValue_of_keyAt here, values, if_neg apart, if_pos rfl]
    · refine nodeValue_congr (fun p => ?_) fun p named => ?_
      · by_cases first : p = main
        · subst first
          rw [keys, if_pos rfl]
          exact iff_of_false differs moved
        · by_cases here : p = free
          · subst here
            rw [keys, if_neg first, if_pos rfl, unused]
            exact iff_of_false moved nofun
          · rw [keys, if_neg first, if_neg here]
      · have elsewhere : p ≠ main := fun same => moved (same ▸ named)
        have present : p ≠ free := by
          rintro rfl
          rw [unused] at named
          cases named
        rw [values, if_neg elsewhere, if_neg present]
  case room =>
    refine freeCount_le (nodes ▸ size_displace) free fun p elsewhere unused => ?_
    have first : p ≠ main := fun same => taken (same ▸ unused)
    rw [keys, if_neg first, if_neg elsewhere, unused]

end

/-- A key that was not there yet is put into a node. -/
theorem put_place {absent : t.find? key = none} (placed : t.place key value absent = (true, t')) :
    Put t t' key value 1 := by
  unfold place at placed
  dsimp only at placed
  split at placed
  · cases placed
  rename_i room
  obtain ⟨inside, -⟩ := mainPlace_lt_of_room room
  split at placed
  · rename_i unvalued
    obtain rfl := congrArg Prod.snd placed
    exact put_at rfl rfl size_overwrite (fun p => keyAt_overwrite inside)
      (fun p => valueAt_overwrite inside) (isNil_iff.mp unvalued)
  rename_i valued
  have taken := keyAt_of_value valued
  split at placed
  · cases placed
  rename_i free found
  obtain ⟨within, unused, -⟩ := unused_of_freePlace? found
  split at placed
  · obtain rfl := congrArg Prod.snd placed
    exact put_displace rfl rfl rfl inside within unused taken
  · -- the place is free, so there is no value either
    obtain rfl := congrArg Prod.snd placed
    have apart : free ≠ mainPlace t.nodes.size key := fun same => taken (same ▸ unused)
    exact put_at rfl rfl size_append (fun p => keyAt_append inside within apart)
      (fun p => valueAt_append inside within apart) (t.sound.free free unused).1

/-- A table without a place for a key stays as it is. -/
theorem eq_of_place {absent : t.find? key = none}
    (unplaced : t.place key value absent = (false, t')) : t' = t := by
  unfold place at unplaced
  dsimp only at unplaced
  split at unplaced
  · exact (congrArg Prod.snd unplaced).symm
  split at unplaced
  · cases unplaced
  split at unplaced
  · exact (congrArg Prod.snd unplaced).symm
  split at unplaced <;> cases unplaced

/-- There is a place for a key if one is free. -/
theorem place_of_room {absent : t.find? key = none} (notNil : key ≠ .nil)
    (room : 0 < freeCount t.nodes) : (t.place key value absent).1 = true := by
  unfold place
  dsimp only
  split
  · rename_i noRoom
    obtain ⟨p, inside, -⟩ := exists_free room
    rw [Bool.or_eq_true, Array.isEmpty_iff_size_eq_zero, isNil_iff] at noRoom
    exact absurd notNil (by simpa using noRoom.resolve_left (by omega))
  split
  · rfl
  split
  · rename_i nothing
    exact absurd nothing (freePlace?_ne_none room)
  split <;> rfl

/-- A key costs a free place if it is none of an item. -/
def cost (t : Table) (key : Val) : Nat := if isItemKey t.items.size key then 0 else 1

/-- A key is put where there is room for it. -/
theorem put_setInRoom (value : Val) (notNil : key ≠ .nil) (room : t.cost key ≤ freeCount t.nodes) :
    Put t (t.setInRoom key value) key value (t.cost key) := by
  have isItem := isSome_itemPlace? t key
  unfold setInRoom
  split
  · rename_i place found
    rw [found] at isItem
    rw [cost, ← isItem]
    exact put_item found
  · rename_i noItem
    rw [noItem] at isItem
    rw [cost, ← isItem] at room ⊢
    split
    · rename_i found
      exact { put_setNode found with room := Nat.le_succ_of_le (put_setNode found).room }
    · rename_i absent
      exact put_place (Prod.ext (place_of_room notNil room) rfl)

/-! ## Section 4: Growth -/

/-- A table with an entry put in, if it has a value. -/
def refillOne (t : Table) (entry : Val × Val) : Table :=
  if entry.2.isNil then t else t.setInRoom entry.1 entry.2

/-- A table with entries put in. -/
def refill (t : Table) (entries : List (Val × Val)) : Table := entries.foldl refillOne t

/-- How many free places entries cost. -/
def costs (size : Nat) (entries : List (Val × Val)) : Nat :=
  entries.countP fun entry => isLive entry.2 && !isItemKey size entry.1

theorem costs_cons (size : Nat) (entry : Val × Val) (entries : List (Val × Val)) :
    costs size (entry :: entries) = costs size [entry] + costs size entries := by
  rw [costs, ← List.singleton_append, List.countP_append]
  rfl

/-- A table into which entries were put. -/
structure Refilled (t t' : Table) (entries : List (Val × Val)) : Prop where
  items : t'.items.size = t.items.size
  metatable : t'.metatable = t.metatable
  /-- A name has the value that it had, unless an entry gives it one. -/
  names : ∀ s v, (∀ entry ∈ entries, entry.1 = .str s → isLive entry.2 → entry.2 = v) →
    (t.nodeValue (.str s) = v ∨ ∃ entry ∈ entries, entry.1 = .str s ∧ isLive entry.2) →
      t'.nodeValue (.str s) = v
  room : freeCount t.nodes ≤ freeCount t'.nodes + costs t.items.size entries

theorem Refilled.nil : Refilled t t [] where
  items := rfl
  metatable := rfl
  names _ _ _ given := given.resolve_right (by simp)
  room := Nat.le_refl _

/-- Entries come one after the other. -/
theorem Refilled.cons {t'' : Table} {entry : Val × Val} {entries : List (Val × Val)}
    (first : Refilled t t' [entry]) (rest : Refilled t' t'' entries) :
    Refilled t t'' (entry :: entries) where
  items := rest.items.trans first.items
  metatable := rest.metatable.trans first.metatable
  names s v same given := by
    refine rest.names s v (fun e mem => same e (List.mem_cons_of_mem _ mem)) ?_
    by_cases later : ∃ e ∈ entries, e.1 = .str s ∧ isLive e.2
    · exact .inr later
    · refine .inl (first.names s v (by simpa using same entry List.mem_cons_self) ?_)
      refine given.imp_right fun ⟨e, mem, named⟩ => ?_
      rcases List.mem_cons.mp mem with rfl | mem
      · exact ⟨e, List.mem_singleton_self e, named⟩
      · exact absurd ⟨e, mem, named⟩ later
  room := by
    have price := costs_cons t.items.size entry entries
    have := first.room
    have := rest.room
    rw [first.items] at this
    omega

theorem refilled_refillOne {entry : Val × Val} (key : isLive entry.2 → entry.1 ≠ .nil)
    (room : costs t.items.size [entry] ≤ freeCount t.nodes) :
    Refilled t (t.refillOne entry) [entry] := by
  unfold refillOne
  split
  · rename_i dead
    have dead : ¬ isLive entry.2 := by simp [isLive, dead]
    exact { items := rfl, metatable := rfl, room := Nat.le_add_right _ _
            names := fun _ _ _ given => given.resolve_right (by simp [dead]) }
  · rename_i live
    have live : isLive entry.2 := by simpa [isLive] using live
    have price : costs t.items.size [entry] = t.cost entry.1 := by
      cases isItem : isItemKey t.items.size entry.1 <;> simp [costs, cost, isItem, live]
    rw [price] at room
    have put := put_setInRoom entry.2 (key live) room
    refine { items := put.items, metatable := put.metatable, room := price ▸ put.room, names := ?_ }
    intro s v same given
    by_cases named : entry.1 = .str s
    · rw [put.own s named]
      exact same entry (List.mem_singleton_self entry) named live
    · rw [put.others s named]
      exact given.resolve_right (by simp [named])

/-- Entries can be put in if there is room for all of them. -/
theorem refilled_refill {entries : List (Val × Val)}
    (keys : ∀ entry ∈ entries, isLive entry.2 → entry.1 ≠ .nil)
    (room : costs t.items.size entries ≤ freeCount t.nodes) :
    Refilled t (t.refill entries) entries := by
  -- on the entries, for any table with room for them
  induction entries generalizing t with
  | nil => exact .nil
  | cons entry rest ih =>
    have price := costs_cons t.items.size entry rest
    have first := refilled_refillOne (t := t) (keys entry List.mem_cons_self) (by omega)
    have left := first.room
    refine first.cons (ih (fun e mem => keys e (List.mem_cons_of_mem _ mem)) ?_)
    rw [first.items]
    omega

/-- The entries of items from a place on. -/
def itemEntries (t : Table) (place : Nat) : List (Val × Val) :=
  (List.range (t.items.size - place)).map fun i =>
    (.ofNat (place + i + 1), (t.items[place + i]?).getD .nil)

/-- The entries of nodes. -/
def nodeEntries (t : Table) : List (Val × Val) :=
  t.nodes.toList.map fun node => (node.key, node.value)

/-- A table without entries, with nodes for a number of keys. -/
def emptied (t : Table) (nodeCount : Nat) : Table :=
  { t with
    items := #[]
    hint := 0
    nodes := freshNodes nodeCount
    lastFree := (freshNodes nodeCount).size
    sound := sound_freshNodes _ }

/-- The items that stay items, with room for more. -/
def keptItems (t : Table) (itemCount : Nat) : Array Val :=
  let items := t.items.take itemCount
  items ++ Array.replicate (itemCount - items.size) .nil

/-- A table of another size before its nodes are put into it. -/
def halfway (t : Table) (itemCount nodeCount : Nat) : Table :=
  { (t.emptied nodeCount).refill (t.itemEntries itemCount) with
    items := t.keptItems itemCount
    hint := itemCount }

theorem resize_eq (t : Table) (itemCount nodeCount : Nat) :
    t.resize itemCount nodeCount = (t.halfway itemCount nodeCount).refill t.nodeEntries := by
  unfold resize halfway refill itemEntries nodeEntries
  rw [List.foldl_map, List.foldl_map, ← Array.foldl_toList]
  rfl

theorem isItemKey_zero : isItemKey 0 key = false := by
  cases key with
  | int n =>
    rw [isItemKey, decide_eq_false_iff_not, UInt64.lt_iff_toNat_lt]
    exact Nat.not_lt_zero _
  | _ => rfl

theorem costs_itemEntries (t : Table) (place : Nat) :
    costs 0 (t.itemEntries place) = t.liveItemsFrom place := by
  have values : (t.itemEntries place).map Prod.snd = t.items.toList.drop place := by
    rw [itemEntries, List.map_map]
    refine List.ext_getElem (by simp) fun i short _ => ?_
    have inside : place + i < t.items.size := by
      simp at short
      omega
    simp [inside]
  rw [costs, liveItemsFrom, ← values, List.countP_map]
  simp only [isItemKey_zero, Bool.not_false, Bool.and_true]
  rfl

theorem costs_nodeEntries (t : Table) (size : Nat) :
    costs size t.nodeEntries = t.liveNodesBeyond size := by
  rw [costs, nodeEntries, List.countP_map]
  rfl

theorem size_keptItems (t : Table) (itemCount : Nat) : (t.keptItems itemCount).size = itemCount := by
  simp [keptItems]

theorem mem_nodeEntries {entry : Val × Val} (mem : entry ∈ t.nodeEntries) :
    ∃ p, keyAt t.nodes p = entry.1 ∧ valueAt t.nodes p = entry.2 := by
  obtain ⟨node, present, rfl⟩ := List.mem_map.mp mem
  obtain ⟨p, inside, rfl⟩ := List.mem_iff_getElem.mp present
  have here : t.nodes[p]? = some t.nodes.toList[p] := by simp
  exact ⟨p, keyAt_of_getElem? here, valueAt_of_getElem? here⟩

theorem mem_nodeEntries_of_keyAt (present : keyAt t.nodes p ≠ .nil) :
    (keyAt t.nodes p, valueAt t.nodes p) ∈ t.nodeEntries := by
  have inside := lt_size_of_keyAt present
  have here := Array.getElem?_eq_getElem inside
  rw [keyAt_of_getElem? here, valueAt_of_getElem? here]
  exact List.mem_map.mpr ⟨t.nodes[p], by simp, rfl⟩

/-- Items that no longer are items are put into nodes, if there are enough. No name is among them. -/
theorem halfway_of_room (t : Table) {itemCount nodeCount : Nat}
    (room : t.liveItemsFrom itemCount ≤ nodeCount) :
    (t.halfway itemCount nodeCount).metatable = t.metatable
      ∧ (∀ s, (t.halfway itemCount nodeCount).nodeValue (.str s) = .nil)
      ∧ nodeCount ≤ freeCount (t.halfway itemCount nodeCount).nodes + t.liveItemsFrom itemCount := by
  have fresh : nodeCount ≤ freeCount (t.emptied nodeCount).nodes := freeCount_freshNodes nodeCount
  have price : costs (t.emptied nodeCount).items.size (t.itemEntries itemCount)
      = t.liveItemsFrom itemCount := costs_itemEntries t itemCount
  have numbered (s : Bytes) (entry : Val × Val) (mem : entry ∈ t.itemEntries itemCount) :
      entry.1 ≠ .nil ∧ entry.1 ≠ .str s := by
    obtain ⟨i, -, rfl⟩ := List.mem_map.mp mem
    exact ⟨nofun, nofun⟩
  have refilled := refilled_refill (t := t.emptied nodeCount)
    (fun entry mem _ => (numbered .empty entry mem).1) (by omega)
  refine ⟨refilled.metatable, fun s => ?_, ?_⟩
  · have unnamed : (t.emptied nodeCount).nodeValue (.str s) = .nil :=
      nodeValue_of_absent fun p named => nomatch (keyAt_freshNodes nodeCount p).symm.trans named
    exact refilled.names s .nil (fun entry mem named => absurd named (numbered s entry mem).2)
      (.inl unnamed)
  · have left := refilled.room
    rw [price] at left
    exact le_trans fresh left

/-- Names keep their values when the size of a table changes and there is room for all of it. What is
not needed of the nodes is free then. -/
theorem resize_of_room (t : Table) {itemCount nodeCount : Nat}
    (room : t.liveItemsFrom itemCount + t.liveNodesBeyond itemCount ≤ nodeCount) :
    (t.resize itemCount nodeCount).metatable = t.metatable
      ∧ (∀ s, (t.resize itemCount nodeCount).nodeValue (.str s) = t.nodeValue (.str s))
      ∧ nodeCount ≤ freeCount (t.resize itemCount nodeCount).nodes
        + (t.liveItemsFrom itemCount + t.liveNodesBeyond itemCount) := by
  obtain ⟨metatable, unnamed, free⟩ := t.halfway_of_room (le_trans (Nat.le_add_right _ _) room)
  rw [resize_eq]
  have price : costs (t.halfway itemCount nodeCount).items.size t.nodeEntries
      = t.liveNodesBeyond itemCount := by
    rw [← costs_nodeEntries]
    exact congrArg (costs · t.nodeEntries) (size_keptItems t itemCount)
  have keys : ∀ entry ∈ t.nodeEntries, isLive entry.2 → entry.1 ≠ .nil := by
    intro entry mem live unused
    obtain ⟨p, key, value⟩ := mem_nodeEntries mem
    rw [← value, (t.sound.free p (key.trans unused)).1] at live
    cases live
  have refilled := refilled_refill (t := t.halfway itemCount nodeCount) keys (by omega)
  refine ⟨refilled.metatable.trans metatable, fun s => refilled.names s _ ?_ ?_, ?_⟩
  · -- all nodes with the name have its value
    intro entry mem named _
    obtain ⟨p, key, value⟩ := mem_nodeEntries mem
    rw [nodeValue_of_keyAt (key.trans named), value]
  · -- and if it has one, then there is such a node
    by_cases named : ∃ p, keyAt t.nodes p = .str s
    · obtain ⟨p, named⟩ := named
      rw [unnamed, nodeValue_of_keyAt named]
      cases live : isLive (valueAt t.nodes p) with
      | true =>
        have mem := mem_nodeEntries_of_keyAt (named ▸ nofun : keyAt t.nodes p ≠ .nil)
        exact .inr ⟨_, mem, named, live⟩
      | false =>
        have dead : (valueAt t.nodes p).isNil := by simpa [isLive] using live
        exact .inl (isNil_iff.mp dead).symm
    · rw [not_exists] at named
      rw [unnamed, nodeValue_of_absent named]
      exact .inl rfl
  · have left := refilled.room
    omega

/-! ## Section 5: Setting names -/

/-- A name is put where there was no room, after the table has grown. -/
theorem put_grow (t : Table) (name : Bytes) (value : Val) :
    let t' := (t.grow (.str name)).setInRoom (.str name) value
    t'.metatable = t.metatable ∧ t'.nodeValue (.str name) = value
      ∧ ∀ s, s ≠ name → t'.nodeValue (.str s) = t.nodeValue (.str s) := by
  have enough := t.room_of_nameGrowth
  obtain ⟨metatable, names, free⟩ := t.resize_of_room (le_trans (Nat.le_succ _) enough)
  rw [← grow_str t name] at metatable names free
  have price : (t.grow (.str name)).cost (.str name) = 1 := rfl
  have notNil : Val.str name ≠ .nil := nofun
  have put := put_setInRoom (t := t.grow (.str name)) value notNil (by omega)
  refine ⟨put.metatable.trans metatable, put.own name rfl, fun s differs => ?_⟩
  rw [put.others s fun named => differs (Val.str.inj named).symm, names]

/-- A name that is set has the value, and no other name changes. -/
theorem setKey_str (t : Table) (name : Bytes) (value : Val) :
    let t' := t.setKey (.str name) value
    t'.metatable = t.metatable ∧ t'.nodeValue (.str name) = value
      ∧ ∀ s, s ≠ name → t'.nodeValue (.str s) = t.nodeValue (.str s) := by
  have of_put {t' : Table} {cost : Nat} (put : Put t t' (.str name) value cost) :
      t'.metatable = t.metatable ∧ t'.nodeValue (.str name) = value
        ∧ ∀ s, s ≠ name → t'.nodeValue (.str s) = t.nodeValue (.str s) :=
    ⟨put.metatable, put.own name rfl,
      fun s differs => put.others s fun named => differs (Val.str.inj named).symm⟩
  unfold setKey
  split
  · rename_i isItem
    cases isItem
  split
  · rename_i found
    exact of_put (put_setNode found)
  rename_i absent
  split
  · -- a name without a node has no value already
    rename_i none
    refine ⟨rfl, ?_, fun s _ => rfl⟩
    rw [nodeValue_of_find?_eq_none absent, isNil_iff.mp none]
  split
  · rename_i placed
    exact of_put (put_place placed)
  · rename_i unplaced
    obtain rfl := eq_of_place unplaced
    exact put_grow _ name value

theorem metatable_setName (t : Table) (name : String) (value : Val) :
    (t.setName name value).metatable = t.metatable := (t.setKey_str _ value).1

theorem ofText_inj {a b : String} : Bytes.ofText a = Bytes.ofText b ↔ a = b :=
  ⟨fun same => String.toByteArray_inj.mp same, congrArg _⟩

/-- A name that is set has the value; every other name has what it had. -/
theorem getName_setName (t : Table) (name other : String) (value : Val) :
    (t.setName name value).getName other = if other = name then value else t.getName other := by
  obtain ⟨-, own, others⟩ := t.setKey_str (Bytes.ofText name) value
  by_cases same : other = name
  · rw [if_pos same, same]
    exact own
  · rw [if_neg same]
    exact others _ (mt ofText_inj.mp same)

end Table

end Folio.Lua
