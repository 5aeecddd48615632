import Folio.Lua
import Folio.Proofs.Lua.Table

/-!
# Values of documents in programs

A list or an object of a document is a table of its own in the memory of a program. The table of a
list has its values in their order, and that of an object has for every name the value of its last
entry. Making them leaves all other tables as they were, and they stay what they are as long as
nothing but global variables changes.

Main definitions:
- `Lua.Memory.Extends`: a memory with more tables
- `Lua.Memory.Keeps`: a memory with more tables and other global variables
- `Lua.Represents`: what a value of a document is in a program

Main statements:
- `Lua.extends_ofValue`: no table changes when a value is made
- `Lua.represents_ofValue`: the value that is made is the value of the document
-/

namespace Folio.Lua

variable {m m' m'' : Memory} {id : Nat}

/-! ## Section 1: Memories with more tables -/

namespace Memory

/-- There are more tables, and those that there were are the same. -/
structure Extends (m m' : Memory) : Prop where
  globals : m'.globals = m.globals
  size : m.tables.size ≤ m'.tables.size
  tables : ∀ id < m.tables.size, m'.table id = m.table id

/-- There are more tables, and those that there were are the same but for that of global variables. -/
structure Keeps (m m' : Memory) : Prop where
  globals : m'.globals = m.globals
  size : m.tables.size ≤ m'.tables.size
  tables : ∀ id < m.tables.size, id ≠ m.globals → m'.table id = m.table id

theorem Extends.refl (m : Memory) : Extends m m := ⟨rfl, Nat.le_refl _, fun _ _ => rfl⟩

theorem Extends.trans (first : Extends m m') (second : Extends m' m'') : Extends m m'' where
  globals := second.globals.trans first.globals
  size := le_trans first.size second.size
  tables id inside :=
    (second.tables id (lt_of_lt_of_le inside first.size)).trans (first.tables id inside)

theorem Extends.keeps (extends_ : Extends m m') : Keeps m m' :=
  ⟨extends_.globals, extends_.size, fun id inside _ => extends_.tables id inside⟩

theorem Keeps.trans (first : Keeps m m') (second : Keeps m' m'') : Keeps m m'' where
  globals := second.globals.trans first.globals
  size := le_trans first.size second.size
  tables id inside other :=
    (second.tables id (lt_of_lt_of_le inside first.size) (first.globals ▸ other)).trans
      (first.tables id inside other)

theorem tables_newTable (m : Memory) (t : Table) : (m.newTable t).2.tables = m.tables.push t := rfl

theorem extends_newTable (m : Memory) (t : Table) : Extends m (m.newTable t).2 where
  globals := rfl
  size := by rw [tables_newTable, Array.size_push]; exact Nat.le_succ _
  tables id inside := by
    rw [table, table, tables_newTable, Array.getD_eq_getD_getElem?, Array.getD_eq_getD_getElem?,
      Array.getElem?_push_lt inside, Array.getElem?_eq_getElem inside]

theorem table_newTable (m : Memory) (t : Table) : (m.newTable t).2.table m.tables.size = t := by
  rw [table, tables_newTable, Array.getD_eq_getD_getElem?, Array.getElem?_push_size]
  rfl

end Memory

/-! ## Section 2: Values -/

/-- The value of the last entry with a name. -/
def lastOf (name : String) (entries : List (String × Value)) : Option Value :=
  Variables.lookup name entries.reverse

theorem lookup_append (name : String) (first second : List (String × Value)) :
    Variables.lookup name (first ++ second)
      = (Variables.lookup name first).or (Variables.lookup name second) := by
  induction first with
  | nil => rfl
  | cons entry rest ih =>
    rw [List.cons_append, Variables.lookup, Variables.lookup]
    split
    · rfl
    · exact ih

theorem lastOf_cons (name other : String) (value : Value) (rest : List (String × Value)) :
    lastOf name ((other, value) :: rest)
      = (lastOf name rest).or (if other = name then some value else none) := by
  rw [lastOf, List.reverse_cons, lookup_append]
  rfl

/-- A value of a program is a value of a document, whose tables are none of global variables. -/
inductive Represents (m : Memory) : Value → Val → Prop
  | null : Represents m .null .null
  | bool (b : Bool) : Represents m (.bool b) (.bool b)
  | int {n : Int} {k : Int64} (fits : fitInt? n = some k) : Represents m (.int n) (.int k)
  | large {n : Int} (exceeds : fitInt? n = none) :
      Represents m (.int n) (.float (Binary64.ofInt n))
  | float (x : Float) : Represents m (.float x) (.float x)
  | str (s : String) : Represents m (.str s) (.ofText s)
  | list {values : List Value} {id : Nat} (inside : id < m.tables.size) (other : id ≠ m.globals)
      (size : (m.table id).items.size = values.length) (alone : (m.table id).nodes = #[])
      (each : ∀ i value, values[i]? = some value →
        Represents m value ((m.table id).items.getD i .nil)) :
      Represents m (.list values) (.table id)
  | object {entries : List (String × Value)} {id : Nat} (inside : id < m.tables.size)
      (other : id ≠ m.globals)
      (named : ∀ name value, lastOf name entries = some value →
        Represents m value ((m.table id).getName name))
      (unnamed : ∀ name, lastOf name entries = none → (m.table id).getName name = .nil) :
      Represents m (.object entries) (.table id)

/-- Values stay what they are while global variables change. -/
theorem Represents.keeps {value : Value} {v : Val} (represents : Represents m value v)
    (keeps : m.Keeps m') : Represents m' value v := by
  induction represents with
  | null => exact .null
  | bool b => exact .bool b
  | int fits => exact .int fits
  | large exceeds => exact .large exceeds
  | float x => exact .float x
  | str s => exact .str s
  | list inside other size alone _ ih =>
    have same := keeps.tables _ inside other
    refine .list (lt_of_lt_of_le inside keeps.size) (keeps.globals ▸ other) (same ▸ size)
      (same ▸ alone) ?_
    exact same ▸ ih
  | object inside other _ unnamed ih =>
    have same := keeps.tables _ inside other
    refine .object (lt_of_lt_of_le inside keeps.size) (keeps.globals ▸ other) ?_ (same ▸ unnamed)
    exact same ▸ ih

/-! ## Section 3: Making values -/

/-- A table that is made is none of global variables. -/
theorem newTable_inside (m : Memory) (t : Table) : m.tables.size < (m.newTable t).2.tables.size
    ∧ m.tables.size ≠ (m.newTable t).2.globals := by
  rw [Memory.tables_newTable, Array.size_push]
  exact ⟨Nat.lt_succ_self _, m.hasGlobals.ne'⟩

-- along the recursion of the conversion, one case for each kind of value
mutual

/-- No table changes when a value is made. -/
theorem extends_ofValue : ∀ (value : Value) (m : Memory), m.Extends (ofValue value m).2
  | .null, m | .bool _, m | .float _, m | .str _, m => by
      rw [ofValue]
      exact .refl m
  | .int n, m => by
      rw [ofValue]
      cases fitInt? n <;> exact .refl m
  | .list values, m => by
      rw [ofValue]
      exact (extends_ofValues values m).trans (Memory.extends_newTable _ _)
  | .object entries, m => by
      rw [ofValue]
      exact (extends_ofEntries entries {} m).trans (Memory.extends_newTable _ _)

theorem extends_ofValues : ∀ (values : List Value) (m : Memory), m.Extends (ofValues values m).2
  | [], m => by
      rw [ofValues]
      exact .refl m
  | value :: rest, m => by
      rw [ofValues]
      exact (extends_ofValue value m).trans (extends_ofValues rest _)

theorem extends_ofEntries : ∀ (entries : List (String × Value)) (t : Table) (m : Memory),
    m.Extends (ofEntries entries t m).2
  | [], t, m => by
      rw [ofEntries]
      exact .refl m
  | (name, value) :: rest, t, m => by
      rw [ofEntries]
      exact (extends_ofValue value m).trans (extends_ofEntries rest _ _)

end

mutual

/-- What is made of a value of a document is that value. -/
theorem represents_ofValue : ∀ (value : Value) (m : Memory),
    Represents (ofValue value m).2 value (ofValue value m).1
  | .null, m => by
      rw [ofValue]
      exact .null
  | .bool b, m => by
      rw [ofValue]
      exact .bool b
  | .float x, m => by
      rw [ofValue]
      exact .float x
  | .str s, m => by
      rw [ofValue]
      exact .str s
  | .int n, m => by
      rw [ofValue]
      cases fits : fitInt? n with
      | some k => exact .int fits
      | none => exact .large fits
  | .list values, m => by
      obtain ⟨length, each⟩ := represents_ofValues values m
      rw [ofValue]
      obtain ⟨inside, other⟩ := newTable_inside (ofValues values m).2
        { Table.ofItems (ofValues values m).1.toArray with
          metatable := (ofValues values m).2.listMetatable }
      refine .list inside other ?_ ?_ fun i value here => ?_
      · rw [Memory.table_newTable]
        exact length
      · rw [Memory.table_newTable]
        rfl
      · rw [Memory.table_newTable]
        -- the table is made after its items, which keep what they are
        have item : (Table.ofItems (ofValues values m).1.toArray).items.getD i .nil
            = (ofValues values m).1.getD i .nil := by
          simp [Table.ofItems, Array.getD_eq_getD_getElem?]
        exact item ▸ (each i value here).keeps (Memory.extends_newTable _ _).keeps
  | .object entries, m => by
      obtain ⟨named, unnamed⟩ := represents_ofEntries entries {} m
      rw [ofValue]
      obtain ⟨inside, other⟩ :=
        newTable_inside (ofEntries entries {} m).2 (ofEntries entries {} m).1
      refine .object inside other (fun name value found => ?_) fun name missing => ?_
      · rw [Memory.table_newTable]
        exact (named name value found).keeps (Memory.extends_newTable _ _).keeps
      · rw [Memory.table_newTable, unnamed name missing]
        rfl

theorem represents_ofValues : ∀ (values : List Value) (m : Memory),
    (ofValues values m).1.length = values.length ∧ ∀ i value, values[i]? = some value →
      Represents (ofValues values m).2 value ((ofValues values m).1.getD i .nil)
  | [], m => by
      rw [ofValues]
      exact ⟨rfl, fun i value here => by simp at here⟩
  | value :: rest, m => by
      obtain ⟨length, each⟩ := represents_ofValues rest (ofValue value m).2
      -- the other values are made after the first one, which they leave as it is
      have keeps := (extends_ofValues rest (ofValue value m).2).keeps
      have first := (represents_ofValue value m).keeps keeps
      rw [ofValues]
      refine ⟨congrArg (· + 1) length, fun i other here => ?_⟩
      cases i with
      | zero =>
        obtain rfl := Option.some.inj here
        exact first
      | succ i => exact each i other here

/-- An entry counts unless a later one has its name. -/
theorem represents_ofEntries : ∀ (entries : List (String × Value)) (t : Table) (m : Memory),
    (∀ name value, lastOf name entries = some value →
      Represents (ofEntries entries t m).2 value ((ofEntries entries t m).1.getName name))
      ∧ ∀ name, lastOf name entries = none →
        (ofEntries entries t m).1.getName name = t.getName name
  | [], t, m => by
      rw [ofEntries]
      exact ⟨nofun, fun _ _ => rfl⟩
  | (name, value) :: rest, t, m => by
      obtain ⟨named, unnamed⟩ :=
        represents_ofEntries rest (t.setName name (ofValue value m).1) (ofValue value m).2
      have keeps :=
        (extends_ofEntries rest (t.setName name (ofValue value m).1) (ofValue value m).2).keeps
      have first := (represents_ofValue value m).keeps keeps
      rw [ofEntries]
      dsimp only
      refine ⟨fun other v found => ?_, fun other missing => ?_⟩
      · rw [lastOf_cons] at found
        cases later : lastOf other rest with
        | some w =>
          rw [later] at found
          obtain rfl := Option.some.inj found
          exact named other w later
        | none =>
          rw [later, Option.none_or] at found
          split at found
          · rename_i same
            obtain rfl := Option.some.inj found
            rw [unnamed other later, Table.getName_setName, if_pos same.symm]
            exact first
          · cases found
      · -- a name that no entry has is neither set here nor later
        rw [lastOf_cons, Option.or_eq_none_iff] at missing
        obtain ⟨later, here⟩ := missing
        rw [unnamed other later, Table.getName_setName, if_neg]
        rintro rfl
        simp at here

end

end Folio.Lua
