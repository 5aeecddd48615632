import Folio.Lua.Node

/-!
# Well-formed chains

What holds of the nodes of every table. Every key is in the chain that begins at its main place, so it
is found there; where there is a key, one with the same main place stands at that place, so a key that
comes to its main place and finds one of another chain can take the place from it. A chain does not run
in a circle, so the number of nodes bounds the search.

Main definitions:
- `Lua.Nodes.Leads`: one place after another in a chain
- `Lua.Nodes.Sound`: well-formed nodes

Main statements:
- `Lua.Nodes.Sound.findFrom_ne_none`: a key is found from its main place
- `Lua.Nodes.Sound.overwrite`, `append`, `displace`: the three ways in which a key is put into a node
-/

namespace Folio.Lua.Nodes

variable {nodes nodes' : Array Node} {p q r a b : Nat} {n : Node}

/-! ## Section 1: What stands at a place -/

/-- The key at a place, or `nil` if there is none. -/
def keyAt (nodes : Array Node) (place : Nat) : Val := (nodes[place]?.getD {}).key

/-- The value at a place. -/
def valueAt (nodes : Array Node) (place : Nat) : Val := (nodes[place]?.getD {}).value

/-- The next place of the chain that goes through a place. -/
def linkAt (nodes : Array Node) (place : Nat) : Option Nat :=
  match (nodes[place]?.getD {}).next with
  | 0 => none
  | next + 1 => some next

theorem lt_size_of_keyAt (h : keyAt nodes p ≠ .nil) : p < nodes.size := by
  apply Decidable.byContradiction
  intro outside
  exact h (by simp [keyAt, Array.getElem?_eq_none (Nat.le_of_not_lt outside)])

theorem lt_size_of_linkAt (h : linkAt nodes p = some q) : p < nodes.size := by
  apply Decidable.byContradiction
  intro outside
  simp [linkAt, Array.getElem?_eq_none (Nat.le_of_not_lt outside)] at h

theorem keyAt_of_getElem? (h : nodes[p]? = some n) : keyAt nodes p = n.key := by simp [keyAt, h]

theorem valueAt_of_getElem? (h : nodes[p]? = some n) : valueAt nodes p = n.value := by
  simp [valueAt, h]

theorem linkAt_of_getElem? (h : nodes[p]? = some n) :
    linkAt nodes p = if n.next = 0 then none else some (n.next - 1) := by
  simp only [linkAt, h, Option.getD_some]
  cases n.next <;> rfl

theorem mainPlace_lt (nonempty : 0 < nodes.size) (key : Val) :
    mainPlace nodes.size key < nodes.size := by
  have modulus : (nodes.size - 1) ||| 1 ≤ nodes.size := by
    have half := Nat.or_div_two (a := nodes.size - 1) (b := 1)
    simp at half
    omega
  have positive : 0 < (nodes.size - 1) ||| 1 := by
    have odd := Nat.or_mod_two_eq_one (a := nodes.size - 1) (b := 1)
    omega
  cases key with simp only [mainPlace]
  | int n =>
    -- the modulus wraps around if there are more nodes than words
    rw [UInt64.toNat_mod, UInt64.toNat_ofNat']
    have word := n.toUInt64.toNat_lt
    by_cases whole : ((nodes.size - 1) ||| 1) % 2 ^ 64 = 0
    · rw [whole, Nat.mod_zero]
      omega
    · have := Nat.mod_lt n.toUInt64.toNat (Nat.pos_of_ne_zero whole)
      have := Nat.mod_le ((nodes.size - 1) ||| 1) (2 ^ 64)
      omega
  | str s =>
    have := Nat.and_le_right (n := s.mixed.toNat) (m := nodes.size - 1)
    omega
  | bool b =>
    have := Nat.and_le_right (n := 1) (m := nodes.size - 1)
    split <;> omega
  | nil | null => exact nonempty
  | float | table | function | thread | file =>
    exact Nat.lt_of_lt_of_le (Nat.mod_lt _ positive) modulus

/-! ## Section 2: Chains -/

/-- Links lead from one place to another. -/
inductive Leads (nodes : Array Node) : Nat → Nat → Prop
  | here (p : Nat) : Leads nodes p p
  | next {p q r : Nat} (link : linkAt nodes p = some q) (onward : Leads nodes q r) : Leads nodes p r

theorem Leads.single (link : linkAt nodes p = some q) : Leads nodes p q := .next link (.here q)

theorem Leads.trans (first : Leads nodes p q) (second : Leads nodes q r) : Leads nodes p r := by
  induction first with
  | here => exact second
  | next link _ ih => exact .next link (ih second)

/-- The place after a number of links. -/
def follow (nodes : Array Node) : Nat → Nat → Option Nat
  | 0, place => some place
  | steps + 1, place => (linkAt nodes place).bind (follow nodes steps)

theorem Leads.exists_follow (leads : Leads nodes a b) : ∃ steps, follow nodes steps a = some b := by
  induction leads with
  | here => exact ⟨0, rfl⟩
  | next link _ ih =>
    obtain ⟨steps, followed⟩ := ih
    exact ⟨steps + 1, by rw [follow, link]; exact followed⟩

theorem follow_add (i j : Nat) : follow nodes (i + j) a = (follow nodes i a).bind (follow nodes j) := by
  induction i generalizing a with
  | zero => simp [follow]
  | succ i ih =>
    rw [Nat.succ_add, follow, follow]
    cases linkAt nodes a with
    | none => rfl
    | some next => exact ih

/-- Different numbers below a bound are no more than the bound. -/
theorem length_le_of_nodup {bound : Nat} {numbers : List Nat} (distinct : numbers.Nodup)
    (bounded : ∀ i ∈ numbers, i < bound) : numbers.length ≤ bound := by
  induction bound generalizing numbers with
  | zero =>
    cases numbers with
    | nil => exact Nat.le_refl 0
    | cons i rest => exact absurd (bounded i List.mem_cons_self) (Nat.not_lt_zero i)
  | succ bound ih =>
    -- without the greatest number they are below the bound that is less by one
    have rest : (numbers.erase bound).length ≤ bound := by
      refine ih (distinct.erase bound) fun i mem => ?_
      obtain ⟨differs, mem⟩ := distinct.mem_erase_iff.mp mem
      have := bounded i mem
      omega
    rw [List.length_erase] at rest
    split at rest <;> omega

/-- Every place on the way to a place with a node has a node. -/
theorem exists_follow_of_le {i steps : Nat} (followed : follow nodes steps a = some b)
    (inside : b < nodes.size) (le : i ≤ steps) :
    ∃ c, follow nodes i a = some c ∧ follow nodes (steps - i) c = some b ∧ c < nodes.size := by
  have split : steps = i + (steps - i) := (Nat.add_sub_cancel' le).symm
  rw [split, follow_add] at followed
  obtain ⟨c, here, onward⟩ := Option.bind_eq_some_iff.mp followed
  refine ⟨c, here, onward, ?_⟩
  cases rest : steps - i with
  | zero =>
    rw [rest] at onward
    exact Option.some.inj onward ▸ inside
  | succ more =>
    rw [rest] at onward
    obtain ⟨_, link, -⟩ := Option.bind_eq_some_iff.mp onward
    exact lt_size_of_linkAt link

/-- What links lead to is less links away than there are nodes: a way that meets a place twice can be
shortened. -/
theorem exists_follow_lt (steps : Nat) (followed : follow nodes steps a = some b)
    (inside : b < nodes.size) : ∃ few, few < nodes.size ∧ follow nodes few a = some b := by
  induction steps using Nat.strongRecOn with
  | ind steps ih =>
    by_cases short : steps < nodes.size
    · exact ⟨steps, short, followed⟩
    have long : nodes.size ≤ steps := Nat.le_of_not_lt short
    have passed {i : Nat} (le : i ≤ nodes.size) :=
      exists_follow_of_le followed inside (Nat.le_trans le long)
    let place (i : Nat) : Nat := (follow nodes i a).getD 0
    by_cases distinct : ∀ i k, i < k → k ≤ nodes.size → place i ≠ place k
    · -- then there are more places than nodes
      have bounded : ∀ c ∈ (List.range (nodes.size + 1)).map place, c < nodes.size := by
        intro c mem
        obtain ⟨i, inRange, rfl⟩ := List.mem_map.mp mem
        obtain ⟨c, here, -, inside⟩ := passed (Nat.le_of_lt_succ (List.mem_range.mp inRange))
        simpa [place, here] using inside
      have nodup : ((List.range (nodes.size + 1)).map place).Nodup := by
        refine List.pairwise_map.mpr (List.Pairwise.imp_of_mem ?_ List.pairwise_lt_range)
        intro i k _ mem less
        exact distinct i k less (Nat.le_of_lt_succ (List.mem_range.mp mem))
      have few := length_le_of_nodup nodup bounded
      rw [List.length_map, List.length_range] at few
      omega
    · simp only [Classical.not_forall, Decidable.not_not] at distinct
      obtain ⟨i, k, less, le, same⟩ := distinct
      obtain ⟨c, atI, -, -⟩ := passed (Nat.le_of_lt (Nat.lt_of_lt_of_le less le))
      obtain ⟨c', atK, onward, -⟩ := passed le
      obtain rfl : c = c' := by simpa [place, atI, atK] using same
      refine ih (i + (steps - k)) (by omega) ?_
      rw [follow_add, atI]
      exact onward

/-! ## Section 3: Well-formed nodes -/

/-- Nodes as they are in tables. -/
structure Sound (nodes : Array Node) (lastFree : Nat) : Prop where
  /-- A free node is in no chain. -/
  free : ∀ p, keyAt nodes p = .nil → valueAt nodes p = .nil ∧ linkAt nodes p = none
  /-- A link leads to a key. -/
  linked : ∀ p q, linkAt nodes p = some q → keyAt nodes q ≠ .nil
  /-- No two links lead to one place. -/
  once : ∀ p p' q, linkAt nodes p = some q → linkAt nodes p' = some q → p = p'
  /-- A key is in the chain of its main place. -/
  reached : ∀ p, keyAt nodes p ≠ .nil → Leads nodes (mainPlace nodes.size (keyAt nodes p)) p
  /-- At the main place of a key there is one with the same main place. -/
  headed : ∀ p, keyAt nodes p ≠ .nil →
    keyAt nodes (mainPlace nodes.size (keyAt nodes p)) ≠ .nil
      ∧ mainPlace nodes.size (keyAt nodes (mainPlace nodes.size (keyAt nodes p)))
        = mainPlace nodes.size (keyAt nodes p)
  /-- No place is free from some place on. -/
  full : ∀ p, lastFree ≤ p → p < nodes.size → keyAt nodes p ≠ .nil
  /-- No name is twice a key. -/
  distinct : ∀ p q s, keyAt nodes p = .str s → keyAt nodes q = .str s → p = q

/-! ## Section 4: Searching -/

theorem findFrom_eq_some {key : Val} {fuel : Nat} (found : findFrom nodes key fuel a = some p) :
    p < nodes.size ∧ (keyAt nodes p).identical key := by
  induction fuel generalizing a with
  | zero => cases found
  | succ fuel ih =>
    unfold findFrom at found
    split at found
    · cases found
    · rename_i node here
      split at found
      · rename_i same
        obtain rfl := Option.some.inj found
        rw [keyAt_of_getElem? here]
        exact ⟨(Array.getElem?_eq_some_iff.mp here).1, same⟩
      · split at found
        · cases found
        · exact ih found

/-- A search does not pass by a key that links lead to. -/
theorem findFrom_ne_none_of_follow {key : Val} {steps fuel : Nat}
    (followed : follow nodes steps a = some p) (inside : p < nodes.size)
    (same : (keyAt nodes p).identical key) (enough : steps < fuel) :
    findFrom nodes key fuel a ≠ none := by
  induction fuel generalizing a steps with
  | zero => exact absurd enough (Nat.not_lt_zero steps)
  | succ fuel ih =>
    obtain ⟨c, here, -, within⟩ := exists_follow_of_le followed inside (Nat.zero_le steps)
    obtain rfl : a = c := Option.some.inj here
    have node := Array.getElem?_eq_getElem within
    unfold findFrom
    rw [node]
    dsimp only
    split
    · exact nofun
    · rename_i differs
      cases steps with
      | zero =>
        obtain rfl : a = p := Option.some.inj followed
        rw [keyAt_of_getElem? node] at same
        exact absurd same differs
      | succ steps =>
        obtain ⟨q, link, onward⟩ := Option.bind_eq_some_iff.mp followed
        rw [linkAt_of_getElem? node] at link
        split at link
        · cases link
        · rename_i notLast
          obtain rfl := Option.some.inj link
          rw [if_neg notLast]
          exact ih onward (by omega)

/-- A key is found from its main place. -/
theorem Sound.findFrom_ne_none {lastFree : Nat} (sound : Sound nodes lastFree)
    (present : keyAt nodes p ≠ .nil) (same : (keyAt nodes p).identical (keyAt nodes p)) :
    findFrom nodes (keyAt nodes p) (nodes.size + 1) (mainPlace nodes.size (keyAt nodes p)) ≠ none := by
  have inside := lt_size_of_keyAt present
  obtain ⟨steps, followed⟩ := (sound.reached p present).exists_follow
  obtain ⟨few, less, followed⟩ := exists_follow_lt steps followed inside
  exact findFrom_ne_none_of_follow followed inside same (Nat.lt_succ_of_lt less)

theorem linkAt_placeBefore {steps fuel : Nat} (followed : follow nodes steps a = some b)
    (differs : a ≠ b) (enough : steps ≤ fuel) :
    linkAt nodes (placeBefore nodes b fuel a) = some b := by
  induction fuel generalizing a steps with
  | zero =>
    obtain rfl : steps = 0 := by omega
    exact absurd (Option.some.inj followed) differs
  | succ fuel ih =>
    cases steps with
    | zero => exact absurd (Option.some.inj followed) differs
    | succ steps =>
      obtain ⟨q, link, onward⟩ := Option.bind_eq_some_iff.mp followed
      have within := lt_size_of_linkAt link
      have node := Array.getElem?_eq_getElem within
      have next := link
      rw [linkAt_of_getElem? node] at next
      unfold placeBefore
      rw [node]
      dsimp only
      split at next
      · cases next
      · rename_i notLast
        obtain rfl := Option.some.inj next
        split
        · rename_i stops
          simp only [notLast, decide_false, Bool.or_false, decide_eq_true_eq] at stops
          rw [link, stops]
          rfl
        · rename_i goes
          simp only [notLast, decide_false, Bool.or_false, decide_eq_true_eq] at goes
          exact ih onward (by omega) (by omega)

theorem freePlace?_eq_some {bound free : Nat} (found : freePlace? nodes bound = some free) :
    free < nodes.size ∧ keyAt nodes free = .nil
      ∧ ∀ p, free < p → p < bound → p < nodes.size → keyAt nodes p ≠ .nil := by
  induction bound with
  | zero => cases found
  | succ bound ih =>
    unfold freePlace? at found
    split at found
    · rename_i here
      obtain rfl := Option.some.inj found
      refine ⟨(Array.getElem?_eq_some_iff.mp here).1, by rw [keyAt_of_getElem? here], ?_⟩
      omega
    · rename_i taken
      obtain ⟨inside, isFree, others⟩ := ih found
      refine ⟨inside, isFree, fun p greater less within => ?_⟩
      by_cases last : p = bound
      · subst last
        intro unused
        have node := Array.getElem?_eq_getElem within
        rw [keyAt_of_getElem? node] at unused
        refine taken nodes[p].value nodes[p].next ?_
        rw [node, ← unused]
      · exact others p greater (by omega) within

theorem freePlace?_eq_none {bound : Nat} (nothing : freePlace? nodes bound = none) :
    ∀ p, p < bound → p < nodes.size → keyAt nodes p ≠ .nil := by
  induction bound with
  | zero => exact fun p less => absurd less (Nat.not_lt_zero p)
  | succ bound ih =>
    unfold freePlace? at nothing
    split at nothing
    · cases nothing
    · rename_i taken
      intro p less within
      by_cases last : p = bound
      · subst last
        intro unused
        have node := Array.getElem?_eq_getElem within
        rw [keyAt_of_getElem? node] at unused
        refine taken nodes[p].value nodes[p].next ?_
        rw [node, ← unused]
      · exact ih nothing p (by omega) within

/-! ## Section 5: Changes -/

theorem keyAt_setIfInBounds (inside : q < nodes.size) :
    keyAt (nodes.setIfInBounds q n) p = if p = q then n.key else keyAt nodes p := by
  rw [keyAt, Array.getElem?_setIfInBounds]
  by_cases same : p = q
  · simp [same, inside]
  · simp [same, Ne.symm same, keyAt]

theorem valueAt_setIfInBounds (inside : q < nodes.size) :
    valueAt (nodes.setIfInBounds q n) p = if p = q then n.value else valueAt nodes p := by
  rw [valueAt, Array.getElem?_setIfInBounds]
  by_cases same : p = q
  · simp [same, inside]
  · simp [same, Ne.symm same, valueAt]

theorem linkAt_setIfInBounds (inside : q < nodes.size) :
    linkAt (nodes.setIfInBounds q n) p
      = if p = q then (match n.next with | 0 => none | next + 1 => some next) else linkAt nodes p := by
  rw [linkAt, Array.getElem?_setIfInBounds]
  by_cases same : p = q
  · simp [same, inside]
  · simp [same, Ne.symm same, linkAt]

theorem Leads.map {f : Nat → Nat}
    (step : ∀ p q, linkAt nodes p = some q → Leads nodes' (f p) (f q))
    (leads : Leads nodes a b) : Leads nodes' (f a) (f b) := by
  induction leads with
  | here => exact .here _
  | next link _ ih => exact (step _ _ link).trans ih

theorem keyAt_modify {f : Node → Node} (keeps : ∀ n, (f n).key = n.key) :
    keyAt (nodes.modify q f) p = keyAt nodes p := by
  rw [keyAt, keyAt, Array.getElem?_modify]
  split
  · cases nodes[p]? <;> simp [keeps]
  · rfl

theorem valueAt_modify {f : Node → Node} (keeps : ∀ n, (f n).value = n.value) :
    valueAt (nodes.modify q f) p = valueAt nodes p := by
  rw [valueAt, valueAt, Array.getElem?_modify]
  split
  · cases nodes[p]? <;> simp [keeps]
  · rfl

theorem linkAt_modify {f : Node → Node} (keeps : ∀ n, (f n).next = n.next) :
    linkAt (nodes.modify q f) p = linkAt nodes p := by
  have same : ((nodes.modify q f)[p]?.getD {}).next = (nodes[p]?.getD {}).next := by
    rw [Array.getElem?_modify]
    by_cases here : q = p
    · cases nodes[p]? <;> simp [here, keeps]
    · simp [here]
  rw [linkAt, linkAt, same]

theorem keyAt_relink : keyAt (nodes.modify q fun node => { node with next := r }) p = keyAt nodes p :=
  keyAt_modify fun _ => rfl

theorem valueAt_relink :
    valueAt (nodes.modify q fun node => { node with next := r }) p = valueAt nodes p :=
  valueAt_modify fun _ => rfl

theorem linkAt_relink (inside : q < nodes.size) : linkAt (nodes.modify q fun node =>
    { node with next := r + 1 }) p = if p = q then some r else linkAt nodes p := by
  rw [linkAt, Array.getElem?_modify]
  by_cases same : p = q
  · simp [same, inside]
  · simp [same, Ne.symm same, linkAt]

section Views

variable {main other free : Nat} {key value : Val}

@[simp] theorem size_overwrite : (overwrite nodes main key value).size = nodes.size := by
  simp [overwrite]

theorem keyAt_overwrite (inside : main < nodes.size) :
    keyAt (overwrite nodes main key value) p = if p = main then key else keyAt nodes p :=
  keyAt_setIfInBounds inside

theorem valueAt_overwrite (inside : main < nodes.size) :
    valueAt (overwrite nodes main key value) p = if p = main then value else valueAt nodes p :=
  valueAt_setIfInBounds inside

theorem linkAt_overwrite (inside : main < nodes.size) :
    linkAt (overwrite nodes main key value) p = linkAt nodes p := by
  rw [overwrite, linkAt_setIfInBounds inside]
  split
  · subst p
    rfl
  · rfl

@[simp] theorem size_append : (append nodes main free key value).size = nodes.size := by
  simp [append]

theorem keyAt_append (inside : main < nodes.size) (within : free < nodes.size)
    (differs : free ≠ main) :
    keyAt (append nodes main free key value) p = if p = free then key else keyAt nodes p := by
  rw [append, keyAt_setIfInBounds (by simpa using inside), keyAt_setIfInBounds within]
  by_cases here : p = main
  · subst here
    rw [if_pos rfl, if_neg (Ne.symm differs)]
    rfl
  · rw [if_neg here]

theorem valueAt_append (inside : main < nodes.size) (within : free < nodes.size)
    (differs : free ≠ main) :
    valueAt (append nodes main free key value) p = if p = free then value else valueAt nodes p := by
  rw [append, valueAt_setIfInBounds (by simpa using inside), valueAt_setIfInBounds within]
  by_cases here : p = main
  · subst here
    rw [if_pos rfl, if_neg (Ne.symm differs)]
    rfl
  · rw [if_neg here]

theorem linkAt_append (inside : main < nodes.size) (within : free < nodes.size) :
    linkAt (append nodes main free key value) p
      = if p = main then some free else if p = free then linkAt nodes main else linkAt nodes p := by
  rw [append, linkAt_setIfInBounds (by simpa using inside), linkAt_setIfInBounds within]
  rfl

@[simp] theorem size_displace : (displace nodes main other free key value).size = nodes.size := by
  simp [displace]

theorem keyAt_displace (inside : main < nodes.size) (within : free < nodes.size) :
    keyAt (displace nodes main other free key value) p
      = if p = main then key else if p = free then keyAt nodes main else keyAt nodes p := by
  rw [displace, keyAt_setIfInBounds (by simpa using inside),
    keyAt_setIfInBounds (by simpa using within), keyAt_relink]
  rfl

theorem valueAt_displace (inside : main < nodes.size) (within : free < nodes.size) :
    valueAt (displace nodes main other free key value) p
      = if p = main then value else if p = free then valueAt nodes main else valueAt nodes p := by
  rw [displace, valueAt_setIfInBounds (by simpa using inside),
    valueAt_setIfInBounds (by simpa using within), valueAt_relink]
  rfl

theorem linkAt_displace (inside : main < nodes.size) (within : free < nodes.size)
    (before : placeBefore nodes main nodes.size other < nodes.size) :
    linkAt (displace nodes main other free key value) p = if p = main then none
      else if p = free then linkAt nodes main
      else if p = placeBefore nodes main nodes.size other then some free else linkAt nodes p := by
  rw [displace, linkAt_setIfInBounds (by simpa using inside),
    linkAt_setIfInBounds (by simpa using within), linkAt_relink before]
  rfl

end Views

/-- What no other place links to is led to from itself alone. -/
theorem Leads.eq_of_unlinked (leads : Leads nodes a b)
    (unlinked : ∀ p, linkAt nodes p = some b → p = b) : a = b := by
  induction leads with
  | here => rfl
  | next link _ ih => exact unlinked _ (ih unlinked ▸ link)

namespace Sound

variable {lastFree main free : Nat} {key value : Val}

/-- Links that stay lead to where they led. -/
theorem leads_of_linkAt (links : ∀ p, linkAt nodes' p = linkAt nodes p) (leads : Leads nodes a b) :
    Leads nodes' a b :=
  leads.map (f := id) fun p q link => .single (by rw [id, id, links, link])

/-- Values change, but not what stands at places without a key. -/
theorem of_keys (sound : Sound nodes lastFree) (size : nodes'.size = nodes.size)
    (keys : ∀ p, keyAt nodes' p = keyAt nodes p) (links : ∀ p, linkAt nodes' p = linkAt nodes p)
    (values : ∀ p, keyAt nodes p = .nil → valueAt nodes' p = .nil) : Sound nodes' lastFree where
  free p unused := by
    rw [keys] at unused
    exact ⟨values p unused, (links p).trans (sound.free p unused).2⟩
  linked p q link := by
    rw [keys]
    exact sound.linked p q (links p ▸ link)
  once p p' q link link' := sound.once p p' q (links p ▸ link) (links p' ▸ link')
  reached p present := by
    rw [keys] at present ⊢
    rw [size]
    exact leads_of_linkAt links (sound.reached p present)
  headed p present := by
    rw [keys] at present
    simp only [keys, size]
    exact sound.headed p present
  full p from' inside := by
    rw [keys]
    exact sound.full p from' (size ▸ inside)
  distinct p q s same same' := sound.distinct p q s (keys p ▸ same) (keys q ▸ same')

/-- A key is put where no value is, which is its main place. -/
theorem overwrite (sound : Sound nodes lastFree) (atMain : main = mainPlace nodes.size key)
    (inside : main < nodes.size) (notNil : key ≠ .nil)
    (absent : ∀ s p, key = .str s → keyAt nodes p ≠ .str s) :
    Sound (Nodes.overwrite nodes main key value) lastFree := by
  generalize set : Nodes.overwrite nodes main key value = nodes'
  have size : nodes'.size = nodes.size := set ▸ size_overwrite
  have keys (p : Nat) : keyAt nodes' p = if p = main then key else keyAt nodes p :=
    set ▸ keyAt_overwrite inside
  have values (p : Nat) : valueAt nodes' p = if p = main then value else valueAt nodes p :=
    set ▸ valueAt_overwrite inside
  have links (p : Nat) : linkAt nodes' p = linkAt nodes p := set ▸ linkAt_overwrite inside
  constructor
  case free =>
    intro p unused
    rw [keys] at unused
    split at unused
    · exact absurd unused notNil
    · rename_i elsewhere
      rw [values, if_neg elsewhere, links]
      exact sound.free p unused
  case linked =>
    intro p q link
    rw [keys]
    split
    · exact notNil
    · exact sound.linked p q (links p ▸ link)
  case once => exact fun p p' q link link' => sound.once p p' q (links p ▸ link) (links p' ▸ link')
  case reached =>
    intro p present
    rw [keys, size] at *
    split at present
    · subst p
      simp only [if_true, ← atMain]
      exact .here main
    · rename_i elsewhere
      rw [if_neg elsewhere]
      exact leads_of_linkAt links (sound.reached p present)
  case headed =>
    intro p present
    have head := sound.headed p
    grind
  case full =>
    intro p from' within
    rw [keys]
    split
    · exact notNil
    · exact sound.full p from' (size ▸ within)
  case distinct =>
    intro p q s same same'
    rw [keys] at same same'
    split at same <;> split at same'
    · simp_all
    · exact absurd same' (absent s q same)
    · exact absurd same (absent s p same')
    · exact sound.distinct p q s same same'

/-- A key is put into a free node behind the first one of its chain. -/
theorem append (sound : Sound nodes lastFree) (atMain : main = mainPlace nodes.size key)
    (inside : main < nodes.size) (notNil : key ≠ .nil)
    (absent : ∀ s p, key = .str s → keyAt nodes p ≠ .str s)
    (sameChain : mainPlace nodes.size (keyAt nodes main) = main) (taken : keyAt nodes main ≠ .nil)
    (within : free < nodes.size) (unused : keyAt nodes free = .nil)
    (others : ∀ p, free < p → p < nodes.size → keyAt nodes p ≠ .nil) :
    Sound (Nodes.append nodes main free key value) free := by
  have differs : free ≠ main := fun same => taken (same ▸ unused)
  generalize set : Nodes.append nodes main free key value = nodes'
  have size : nodes'.size = nodes.size := set ▸ size_append
  have keys (p : Nat) : keyAt nodes' p = if p = free then key else keyAt nodes p :=
    set ▸ keyAt_append inside within differs
  have values (p : Nat) : valueAt nodes' p = if p = free then value else valueAt nodes p :=
    set ▸ valueAt_append inside within differs
  have links (p : Nat) : linkAt nodes' p
      = if p = main then some free else if p = free then linkAt nodes main else linkAt nodes p :=
    set ▸ linkAt_append inside within
  have unlinked : linkAt nodes free = none := (sound.free free unused).2
  -- the new place is between the first one of the chain and the next one
  have leads {a b : Nat} (old : Leads nodes a b) : Leads nodes' a b := by
    refine old.map (f := id) fun p q link => ?_
    by_cases first : p = main
    · subst first
      have second : linkAt nodes' free = some q := by rw [links, if_neg differs, if_pos rfl, link]
      exact .next (by rw [id, links, if_pos rfl]) (.single second)
    · have elsewhere : p ≠ free := fun same => by simp [← same, link] at unlinked
      exact .single (by rw [id, links, if_neg first, if_neg elsewhere, link, id])
  constructor
  case free =>
    intro p nothing
    rw [keys] at nothing
    split at nothing
    · exact absurd nothing notNil
    · rename_i elsewhere
      have notMain : p ≠ main := fun same => taken (same ▸ nothing)
      rw [values, if_neg elsewhere, links, if_neg notMain, if_neg elsewhere]
      exact sound.free p nothing
  case linked =>
    intro p q link
    rw [keys]
    split
    · exact notNil
    · have old := sound.linked p q
      have second := sound.linked main q
      grind
  case once =>
    intro p p' q link link'
    have unreached (p : Nat) : linkAt nodes p ≠ some free := fun link => sound.linked p free link unused
    have old := sound.once p p' q
    have first := sound.once p main q
    have first' := sound.once main p' q
    grind
  case reached =>
    intro p present
    rw [size, keys]
    split
    · subst p
      rw [← atMain]
      exact .single (by rw [links, if_pos rfl])
    · rename_i elsewhere
      rw [keys, if_neg elsewhere] at present
      exact leads (sound.reached p present)
  case headed =>
    intro p present
    have head := sound.headed p
    grind
  case full =>
    intro p from' inside
    have other := others p
    grind
  case distinct =>
    intro p q s same same'
    have old := sound.distinct p q s
    have new := absent s
    grind

/-- A key is put into its main place, and the node of another chain that was there into a free one. -/
theorem displace (sound : Sound nodes lastFree) (atMain : main = mainPlace nodes.size key)
    (inside : main < nodes.size) (notNil : key ≠ .nil)
    (absent : ∀ s p, key = .str s → keyAt nodes p ≠ .str s) {other : Nat}
    (otherChain : mainPlace nodes.size (keyAt nodes main) = other) (apart : other ≠ main)
    (taken : keyAt nodes main ≠ .nil) (within : free < nodes.size) (unused : keyAt nodes free = .nil)
    (others : ∀ p, free < p → p < nodes.size → keyAt nodes p ≠ .nil) :
    Sound (Nodes.displace nodes main other free key value) free := by
  have before : linkAt nodes (placeBefore nodes main nodes.size other) = some main := by
    obtain ⟨steps, followed⟩ := (sound.reached main taken).exists_follow
    obtain ⟨few, less, followed⟩ := exists_follow_lt steps followed inside
    rw [otherChain] at followed
    exact linkAt_placeBefore followed apart (Nat.le_of_lt less)
  generalize set : Nodes.displace nodes main other free key value = nodes'
  have size : nodes'.size = nodes.size := set ▸ size_displace
  have keys (p : Nat) : keyAt nodes' p
      = if p = main then key else if p = free then keyAt nodes main else keyAt nodes p :=
    set ▸ keyAt_displace inside within
  have links (p : Nat) : linkAt nodes' p = if p = main then none
      else if p = free then linkAt nodes main
      else if p = placeBefore nodes main nodes.size other then some free else linkAt nodes p :=
    set ▸ linkAt_displace inside within (lt_size_of_linkAt before)
  have values (p : Nat) : valueAt nodes' p
      = if p = main then value else if p = free then valueAt nodes main else valueAt nodes p :=
    set ▸ valueAt_displace inside within
  generalize placeBefore nodes main nodes.size other = previous at before links
  have differs : free ≠ main := fun same => taken (same ▸ unused)
  have unlinked : linkAt nodes free = none := (sound.free free unused).2
  have notFree : previous ≠ free := fun same => by simp [same, unlinked] at before
  have notMain : previous ≠ main := by
    -- otherwise nothing else leads to the main place
    rintro rfl
    refine apart (Leads.eq_of_unlinked (otherChain ▸ sound.reached _ taken) fun p link => ?_)
    exact sound.once _ _ _ link before
  -- the links go through the free place where they went through the main place
  have step (p q : Nat) (link : linkAt nodes p = some q) : Leads nodes'
      (if p = main then free else p) (if q = main then free else q) := by
    apply Leads.single
    have unique := sound.once p previous main
    have elsewhere : p ≠ free := fun same => by simp [← same, link] at unlinked
    rw [links]
    grind
  have leads {a b : Nat} (old : Leads nodes a b) : Leads nodes'
      (if a = main then free else a) (if b = main then free else b) :=
    old.map (f := fun p => if p = main then free else p) step
  have head := sound.headed main taken
  constructor
  case free =>
    intro p nothing
    have old := sound.free p
    rw [keys] at nothing
    rw [values, links]
    have := sound.free p
    grind
  case linked =>
    intro p q link
    have old := sound.linked p q
    have second := sound.linked main q
    have unique := sound.once p previous main
    grind
  case once =>
    intro p p' q link link'
    have unreached (p : Nat) : linkAt nodes p ≠ some free := fun link => sound.linked p free link unused
    have old := sound.once p p' q
    have first := sound.once p main q
    have first' := sound.once main p' q
    grind
  case reached =>
    intro p present
    have old := sound.reached p
    have headP := sound.headed p
    rw [size]
    by_cases here : p = main
    · subst here
      rw [keys, if_pos rfl, ← atMain]
      exact .here _
    · by_cases moved : p = free
      · subst moved
        have way := leads (sound.reached main taken)
        rw [if_pos rfl, otherChain, if_neg apart] at way
        rwa [keys, if_neg here, if_pos rfl, otherChain]
      · rw [keys, if_neg here, if_neg moved] at present ⊢
        -- no key has the main place that the node had to leave
        have elsewhere : mainPlace nodes.size (keyAt nodes p) ≠ main := by
          intro same
          rw [same, otherChain] at headP
          exact apart (headP present).2
        have way := leads (old present)
        rwa [if_neg elsewhere, if_neg here] at way
  case headed =>
    intro p present
    have headP := sound.headed p
    grind
  case full =>
    intro p from' inside
    have other := others p
    grind
  case distinct =>
    intro p q s same same'
    have old := sound.distinct p q s
    have first := sound.distinct main q s
    have second := sound.distinct p main s
    have new := absent s
    grind

/-- The value of a key changes. -/
theorem setValue (sound : Sound nodes lastFree) (present : keyAt nodes q ≠ .nil) :
    Sound (nodes.modify q fun node => { node with value }) lastFree := by
  refine sound.of_keys Array.size_modify (fun p => keyAt_modify fun _ => rfl)
    (fun p => linkAt_modify fun _ => rfl) fun p unused => ?_
  have elsewhere : q ≠ p := fun same => present (same ▸ unused)
  rw [valueAt, Array.getElem?_modify, if_neg elsewhere]
  exact (sound.free p unused).1

/-- Values go. -/
theorem clear (sound : Sound nodes lastFree) (goes : Val → Val → Bool) :
    Sound (nodes.map fun node => if goes node.key node.value then { node with value := .nil } else node)
      lastFree := by
  refine sound.of_keys Array.size_map (fun p => ?_) (fun p => ?_) fun p unused => ?_
  · rw [keyAt, keyAt, Array.getElem?_map]
    cases nodes[p]? with
    | none => rfl
    | some node =>
      simp only [Option.map_some, Option.getD_some]
      split <;> rfl
  · rw [linkAt, linkAt, Array.getElem?_map]
    cases nodes[p]? with
    | none => rfl
    | some node =>
      simp only [Option.map_some, Option.getD_some]
      cases goes node.key node.value <;> rfl
  · have nothing := (sound.free p unused).1
    rw [valueAt] at nothing ⊢
    rw [Array.getElem?_map]
    cases found : nodes[p]? with
    | none => rfl
    | some node =>
      simp only [found, Option.map_some, Option.getD_some] at nothing ⊢
      split
      · rfl
      · exact nothing

end Sound

/-- There are no nodes. -/
theorem sound_empty : Sound #[] 0 where
  free _ _ := ⟨rfl, rfl⟩
  linked _ _ link := nomatch lt_size_of_linkAt link
  once _ _ _ link := nomatch lt_size_of_linkAt link
  reached _ present := nomatch lt_size_of_keyAt present
  headed _ present := nomatch lt_size_of_keyAt present
  full p _ inside := absurd inside (Nat.not_lt_zero p)
  distinct _ _ _ same := by simp [keyAt] at same

/-- Nodes without keys. -/
theorem sound_replicate (size : Nat) : Sound (Array.replicate size {}) size := by
  have node (p : Nat) : ((Array.replicate size ({} : Node))[p]?.getD {}) = {} := by
    rw [Array.getElem?_replicate]
    split <;> rfl
  have keys (p : Nat) : keyAt (Array.replicate size {}) p = .nil := by rw [keyAt, node]
  have links (p : Nat) : linkAt (Array.replicate size {}) p = none := by rw [linkAt, node]
  constructor
  case free => exact fun p _ => ⟨by rw [valueAt, node], links p⟩
  case linked => exact fun p q link => by simp [links] at link
  case once => exact fun p p' q link => by simp [links] at link
  case reached => exact fun p present => absurd (keys p) present
  case headed => exact fun p present => absurd (keys p) present
  case full => exact fun p from' inside => by simp at inside; omega
  case distinct => exact fun p q s same => by simp [keys] at same

end Folio.Lua.Nodes
