import Folio.Lua.Table
import Mathlib.Algebra.BigOperators.Group.Finset.Piecewise
import Mathlib.Algebra.Order.BigOperators.Group.Finset

/-!
# How much a table grows

A table without a free node counts its integer keys by their magnitudes, takes the greatest power of
two of which more than half is used as its number of items, and gets nodes for the rest. No key is
counted twice, so what the count says fits among the items does fit there, and there are nodes for
all else.

Main definitions:
- `Lua.Table.isItemKey`: a key whose value is an item among a number of items
- `Lua.Table.upTo`: the keys that a census has counted up to a power of two

Main statements:
- `Lua.Table.bestSize_eq`: the best size is a power of two up to which so many keys were counted
- `Lua.Table.room_of_nameGrowth`: there are enough nodes for what is not among the items
-/

namespace Folio.Lua.Table

/-! ## Section 1: Magnitudes -/

theorem le_pow_of_ceilLog2_le {n k : Nat} (le : ceilLog2 n ≤ k) : n ≤ Nat.pow 2 k := by
  show n ≤ 2 ^ k
  unfold ceilLog2 at le
  split at le
  · exact le_trans ‹n ≤ 1› Nat.one_le_two_pow
  · have below : n - 1 < 2 ^ (Nat.log2 (n - 1) + 1) := Nat.lt_log2_self
    have := Nat.pow_le_pow_right (n := 2) (by omega) le
    omega

/-- Whether the value of a key is an item, if there are so many of them. -/
def isItemKey (size : Nat) : Val → Bool
  | .int n => (n - 1).toUInt64 < UInt64.ofNat size
  | _ => false

theorem isSome_itemPlace? (t : Table) (key : Val) :
    (t.itemPlace? key).isSome = isItemKey t.items.size key := by
  unfold itemPlace? isItemKey
  cases key with
  | int n =>
    dsimp only
    split <;> simp_all
  | _ => rfl

/-- An integer from one up to the number of items is the key of an item. -/
theorem isItemKey_int {size : Nat} {n : Int64} (positive : 1 ≤ n.toInt) (le : n.toInt ≤ size)
    (small : size ≤ 2 ^ 31) : isItemKey size (.int n) := by
  have value : n.toInt = n.toBitVec.toInt := rfl
  have before : (n - 1).toUInt64.toNat = (n.toBitVec - 1).toNat := rfl
  rw [BitVec.toInt_eq_toNat_cond] at value
  rw [BitVec.toNat_sub] at before
  simp only [isItemKey, decide_eq_true_eq, UInt64.lt_iff_toNat_lt, before, UInt64.toNat_ofNat']
  have bounded := n.toBitVec.isLt
  have one : (1 : BitVec 64).toNat = 1 := rfl
  rw [one]
  split at value <;> omega

/-! ## Section 2: The census -/

/-- How many keys a census has counted that are not above a power of two. -/
def upTo (census : Census) (k : Nat) : Nat := ∑ i ∈ Finset.range (k + 1), (census[i]?).getD 0

theorem upTo_modify_le (census : Census) (i k : Nat) :
    upTo (census.modify i (· + 1)) k ≤ upTo census k + if i ≤ k then 1 else 0 := by
  have each (j : Nat) : ((census.modify i (· + 1))[j]?).getD 0
      ≤ (census[j]?).getD 0 + if i = j then 1 else 0 := by
    rw [Array.getElem?_modify]
    split <;> cases census[j]? <;> simp
  calc upTo (census.modify i (· + 1)) k
      ≤ ∑ j ∈ Finset.range (k + 1), ((census[j]?).getD 0 + if i = j then 1 else 0) :=
        Finset.sum_le_sum fun j _ => each j
    _ = upTo census k + if i ≤ k then 1 else 0 := by
        rw [Finset.sum_add_distrib, Finset.sum_ite_eq]
        simp only [upTo, Finset.mem_range, Nat.lt_succ_iff]

theorem upTo_countKey_le (census : Census) (key : Val) {k : Nat} (small : k < 32) :
    upTo (countKey census key) k
      ≤ upTo census k + if isItemKey (Nat.pow 2 k) key then 1 else 0 := by
  unfold countKey
  split
  · rename_i n
    dsimp only
    split
    · rename_i range
      simp only [Bool.and_eq_true, decide_eq_true_eq] at range
      refine le_trans (upTo_modify_le _ _ _) (Nat.add_le_add_left ?_ _)
      by_cases low : ceilLog2 n.toInt.toNat ≤ k
      · have le := le_pow_of_ceilLog2_le low
        have bound : Nat.pow 2 k ≤ 2 ^ 31 := Nat.pow_le_pow_right (by omega) (by omega)
        rw [if_pos low, if_pos (isItemKey_int range.1 (by omega) bound)]
      · rw [if_neg low]
        exact Nat.zero_le _
    · exact Nat.le_add_right _ _
  · exact Nat.le_add_right _ _

/-- Whether there is a value. -/
def isLive (v : Val) : Bool := !v.isNil

theorem upTo_countItem_le (census : Census) (v : Val) (place k : Nat) :
    upTo (if v.isNil then census else census.modify (ceilLog2 (place + 1)) (· + 1)) k
      ≤ upTo census k + if isLive v ∧ place < Nat.pow 2 k then 1 else 0 := by
  cases live : v.isNil with
  | true => exact Nat.le_add_right _ _
  | false =>
    refine le_trans (upTo_modify_le _ _ _) (Nat.add_le_add_left ?_ _)
    by_cases low : ceilLog2 (place + 1) ≤ k
    · have inside : place < Nat.pow 2 k := le_pow_of_ceilLog2_le low
      have counts : isLive v = true := by simp [isLive, live]
      rw [if_pos low, if_pos ⟨counts, inside⟩]
    · simp [low]

theorem countP_take_cons {α : Type} (p : α → Bool) (a : α) (rest : List α) (place bound : Nat) :
    (((a :: rest).take (bound - place)).countP p)
      = ((rest.take (bound - (place + 1))).countP p) + if p a ∧ place < bound then 1 else 0 := by
  by_cases inside : place < bound
  · have room : bound - place = bound - (place + 1) + 1 := by omega
    rw [room, List.take_succ_cons, List.countP_cons]
    simp [inside]
  · simp [show bound - place = 0 by omega, show bound - (place + 1) = 0 by omega, inside]

theorem upTo_countItems_le (items : Array Val) (k : Nat) (fuel place : Nat) (census : Census) :
    upTo (countItems items fuel place census) k
      ≤ upTo census k + ((items.toList.drop place).take (Nat.pow 2 k - place)).countP isLive := by
  induction fuel generalizing place census with
  | zero => exact Nat.le_add_right _ _
  | succ fuel ih =>
    unfold countItems
    split
    · exact Nat.le_add_right _ _
    · rename_i v here
      obtain ⟨inside, item⟩ := Array.getElem?_eq_some_iff.mp here
      have first : items.toList.drop place = v :: items.toList.drop (place + 1) := by
        rw [List.drop_eq_getElem_cons (by simpa using inside), Array.getElem_toList, item]
      -- the item at the place is counted at most once, and the rest by induction
      have others := ih (place + 1)
        (if v.isNil then census else census.modify (ceilLog2 (place + 1)) (· + 1))
      have counted := upTo_countItem_le census v place k
      rw [first, countP_take_cons]
      omega

theorem upTo_countNodes_le (nodes : List Node) {k : Nat} (small : k < 32) (census : Census) :
    upTo (nodes.foldl (fun census node =>
        if node.value.isNil then census else countKey census node.key) census) k
      ≤ upTo census k
        + nodes.countP fun node => isLive node.value && isItemKey (Nat.pow 2 k) node.key := by
  -- on the nodes, for any census of what came before
  induction nodes generalizing census with
  | nil => exact Nat.le_refl _
  | cons node rest ih =>
    rw [List.foldl_cons, List.countP_cons]
    refine le_trans (ih _) ?_
    have counted := upTo_countKey_le census node.key small
    cases live : node.value.isNil with
    | true => simp [isLive, live]
    | false =>
      simp only [isLive, live, Bool.not_false, Bool.true_and, Bool.false_eq_true, if_false]
      omega

/-! ## Section 3: The best size -/

/-- What is known after one more power of two: the sum of the counts, and the best size with the sum
that it has. -/
def sizeStep (census : Census) (total : Nat) (state : Nat × Nat × Nat) (i : Nat) :
    Nat × Nat × Nat :=
  if total > Nat.pow 2 i / 2 then
    let sum := state.1 + (census[i]?).getD 0
    if sum > Nat.pow 2 i / 2 then (sum, Nat.pow 2 i, sum) else (sum, state.2)
  else state

theorem bestSize_eq_foldl (census : Census) (total : Nat) :
    bestSize census total = ((List.range 32).foldl (sizeStep census total) (0, 0, 0)).2 := rfl

/-- A best size, if there is one, is a power of two, and what it holds was counted up to it. -/
theorem sizeStep_foldl (census : Census) (total n : Nat) :
    let state := (List.range n).foldl (sizeStep census total) (0, 0, 0)
    state.1 ≤ ∑ i ∈ Finset.range n, (census[i]?).getD 0
      ∧ (state.2 = (0, 0) ∨ ∃ k, k < n ∧ state.2.1 = Nat.pow 2 k ∧ state.2.2 ≤ upTo census k) := by
  induction n with
  | zero => exact ⟨Nat.le_refl 0, .inl rfl⟩
  | succ n ih =>
    rw [List.range_succ, List.foldl_append, Finset.sum_range_succ]
    generalize (List.range n).foldl (sizeStep census total) (0, 0, 0) = state at ih
    obtain ⟨sum, best⟩ := ih
    -- what was the best size is still one, if the next power is not better
    have older : state.2 = (0, 0)
        ∨ ∃ k, k < n + 1 ∧ state.2.1 = Nat.pow 2 k ∧ state.2.2 ≤ upTo census k :=
      best.imp_right fun ⟨k, less, found⟩ => ⟨k, Nat.lt_succ_of_lt less, found⟩
    simp only [List.foldl_cons, List.foldl_nil, sizeStep]
    split
    · split
      · refine ⟨Nat.add_le_add_right sum _, .inr ⟨n, Nat.lt_succ_self n, rfl, ?_⟩⟩
        rw [upTo, Finset.sum_range_succ]
        exact Nat.add_le_add_right sum _
      · exact ⟨Nat.add_le_add_right sum _, older⟩
    · exact ⟨le_trans sum (Nat.le_add_right _ _), older⟩

theorem bestSize_eq (census : Census) (total : Nat) : bestSize census total = (0, 0)
    ∨ ∃ k, k < 32 ∧ (bestSize census total).1 = Nat.pow 2 k
      ∧ (bestSize census total).2 ≤ upTo census k := by
  rw [bestSize_eq_foldl]
  exact (sizeStep_foldl census total 32).2

/-! ## Section 4: What is in use -/

theorem foldl_count {α : Type} (value : α → Val) (l : List α) (n : Nat) :
    l.foldl (fun n a => if (value a).isNil then n else n + 1) n
      = n + l.countP fun a => isLive (value a) := by
  induction l generalizing n with
  | nil => rfl
  | cons a rest ih =>
    rw [List.foldl_cons, ih, List.countP_cons]
    cases live : (value a).isNil with
    | true => simp [isLive, live]
    | false =>
      simp only [isLive, live, Bool.false_eq_true, if_false, Bool.not_false, if_true]
      omega

/-- How many items have a value, from a place on. -/
def liveItemsFrom (t : Table) (place : Nat) : Nat := (t.items.toList.drop place).countP isLive

/-- How many nodes have a value, and a key that is none of an item among a number of them. -/
def liveNodesBeyond (t : Table) (size : Nat) : Nat :=
  t.nodes.toList.countP fun node => isLive node.value && !isItemKey size node.key

/-- How many entries have a value. -/
def live (t : Table) : Nat :=
  t.items.toList.countP isLive + t.nodes.toList.countP fun node => isLive node.value

theorem upTo_replicate (size k : Nat) : upTo (Array.replicate size 0) k = 0 :=
  Finset.sum_eq_zero fun i _ => by rw [Array.getElem?_replicate]; split <;> rfl

/-- The census of a table that is about to grow for a name. -/
def census (t : Table) : Census :=
  t.nodes.foldl (fun census node =>
    if node.value.isNil then census else countKey census node.key)
    (countItems t.items (t.items.size + 1) 0 (Array.replicate 33 0))

/-- Every key that is counted up to a power of two is one of an item, if there are so many items. -/
theorem upTo_census_le (t : Table) {k : Nat} (small : k < 32) :
    t.liveItemsFrom (Nat.pow 2 k) + t.liveNodesBeyond (Nat.pow 2 k) + upTo t.census k ≤ t.live := by
  have nodes := upTo_countNodes_le t.nodes.toList small
    (countItems t.items (t.items.size + 1) 0 (Array.replicate 33 0))
  have items := upTo_countItems_le t.items k (t.items.size + 1) 0 (Array.replicate 33 0)
  rw [upTo_replicate, List.drop_zero, Nat.sub_zero] at items
  have itemParts : t.items.toList.countP isLive
      = (t.items.toList.take (Nat.pow 2 k)).countP isLive + t.liveItemsFrom (Nat.pow 2 k) := by
    rw [liveItemsFrom, ← List.countP_append, List.take_append_drop]
  have nodeParts : t.nodes.toList.countP (fun node => isLive node.value)
      = t.liveNodesBeyond (Nat.pow 2 k)
        + t.nodes.toList.countP fun node => isLive node.value && isItemKey (Nat.pow 2 k) node.key := by
    rw [List.countP_eq_countP_filter_add _ _ fun node => !isItemKey (Nat.pow 2 k) node.key,
      List.countP_filter, List.countP_filter, liveNodesBeyond]
    simp only [Bool.not_not]
  rw [live, census, ← Array.foldl_toList]
  omega

/-- What is in use is among the new items, or was not counted among them. -/
theorem bestSize_le_live (t : Table) (total : Nat) :
    t.liveItemsFrom (bestSize t.census total).1 + t.liveNodesBeyond (bestSize t.census total).1
      + (bestSize t.census total).2 ≤ t.live := by
  rcases bestSize_eq t.census total with none | ⟨k, small, size, counted⟩
  · rw [none]
    refine Nat.add_le_add_left (List.countP_mono_left fun node _ => ?_) _
    simp +contextual
  · rw [size]
    have := t.upTo_census_le small
    omega

theorem live_eq (t : Table) : t.items.foldl (fun n v => if v.isNil then n else n + 1) 0
    + t.nodes.foldl (fun n node => if node.value.isNil then n else n + 1) 0 = t.live := by
  have items := foldl_count id t.items.toList 0
  have nodes := foldl_count Node.value t.nodes.toList 0
  rw [Nat.zero_add, Array.foldl_toList] at items nodes
  exact congrArg₂ (· + ·) items nodes

/-- The number of items of a table that has grown for a name, and how many of them it counts as
used. -/
def nameGrowth (t : Table) : Nat × Nat := bestSize t.census (t.census.foldl (· + ·) 0)

theorem grow_str (t : Table) (name : Bytes) :
    t.grow (.str name) = t.resize t.nameGrowth.1 (t.live + 1 - t.nameGrowth.2) := by
  rw [← live_eq]
  rfl

/-- A table that grows for a name has nodes for all that is not among its items, and for the name. -/
theorem room_of_nameGrowth (t : Table) : t.liveItemsFrom t.nameGrowth.1
    + t.liveNodesBeyond t.nameGrowth.1 + 1 ≤ t.live + 1 - t.nameGrowth.2 := by
  have enough := t.bestSize_le_live (t.census.foldl (· + ·) 0)
  rw [nameGrowth]
  omega

end Folio.Lua.Table
