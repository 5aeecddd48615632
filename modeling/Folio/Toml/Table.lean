import Folio.Value

/-!
# Tables of settings files

The entries of a settings file while it is read. A table can be opened by a header or by a dotted
key, and may be opened only once in each place: the way in which it came up decides what may still
be added.

Main definitions:
- `Toml.Item`, `Toml.Entries`: what stands under a name
- `Toml.assign?`: a value under a dotted key
- `Toml.open?`, `Toml.append?`: a header
- `Toml.valueOf`: the finished value
-/

namespace Folio.Toml

/-! ## Section 1: Items -/

/-- How a table came up. -/
inductive Origin where
  /-- By a header of its own. -/
  | header
  /-- On the way to the table of a header. -/
  | way
  /-- On the way of a dotted key. -/
  | dottedKey
deriving DecidableEq, Inhabited

/-- What stands under a name. -/
inductive Item where
  | value (v : Value)
  | table (origin : Origin) (entries : List (String × Item))
  /-- A list of tables, the last one first. -/
  | tables (rows : List (List (String × Item)))
deriving Inhabited

/-- The entries of a table. -/
abbrev Entries := List (String × Item)

/-- The item under a name. -/
def lookup (name : String) : Entries → Option Item
  | [] => none
  | (k, item) :: rest => if k = name then some item else lookup name rest

/-- Put an item under a name, in the place of one that stands there. -/
def put (name : String) (item : Item) : Entries → Entries
  | [] => [(name, item)]
  | (k, old) :: rest => if k = name then (name, item) :: rest else (k, old) :: put name item rest

/-! ## Section 2: Keys -/

/-- Put a value under a dotted key: the names before the last one, and the last one.

The names before the last lead through tables that dotted keys have made or make. A table on the
way to a header may be passed, but nothing is put into it. -/
def assign? (key : String) (value : Value) : List String → Entries → Option Entries
  | [], entries =>
      match lookup key entries with
      | none => some (put key (.value value) entries)
      | some _ => none
  | name :: path, entries =>
      match lookup name entries with
      | none => (assign? key value path []).map fun inner => put name (.table .dottedKey inner) entries
      | some (.table origin inner) =>
          if origin = .header || (path.isEmpty && origin ≠ .dottedKey) then none
          else
            (assign? key value path inner).map fun inner => put name (.table origin inner) entries
      | some (.tables (row :: rows)) =>
          if path.isEmpty then none
          else (assign? key value path row).map fun row => put name (.tables (row :: rows)) entries
      | _ => none

/-! ## Section 3: Headers -/

/-- Change the table that the names of a header lead to, in a list of tables the last one. Tables
that are missing on the way are made. -/
def modify? (change : Entries → Option Entries) : List String → Entries → Option Entries
  | [], entries => change entries
  | name :: path, entries =>
      match lookup name entries with
      | none => (modify? change path []).map fun inner => put name (.table .way inner) entries
      | some (.table origin inner) =>
          (modify? change path inner).map fun inner => put name (.table origin inner) entries
      | some (.tables (row :: rows)) =>
          (modify? change path row).map fun row => put name (.tables (row :: rows)) entries
      | _ => none

/-- Open the table of a name, which no header and no dotted key has made. -/
def open? (name : String) (entries : Entries) : Option Entries :=
  match lookup name entries with
  | none => some (put name (.table .header []) entries)
  | some (.table .way inner) => some (put name (.table .header inner) entries)
  | _ => none

/-- Add a table to the list of tables of a name. -/
def append? (name : String) (entries : Entries) : Option Entries :=
  match lookup name entries with
  | none => some (put name (.tables [[]]) entries)
  | some (.tables rows) => some (put name (.tables ([] :: rows)) entries)
  | _ => none

/-! ## Section 4: Values -/

mutual
/-- The value of an item. -/
def valueOf : Item → Value
  | .value v => v
  | .table _ entries => Value.ofBindings (bindingsOf entries)
  | .tables rows => .list (rowsOf rows).reverse

/-- The values of entries. -/
def bindingsOf : List (String × Item) → List (String × Value)
  | [] => []
  | (name, item) :: rest => (name, valueOf item) :: bindingsOf rest

/-- The values of tables. -/
def rowsOf : List (List (String × Item)) → List Value
  | [] => []
  | row :: rest => Value.ofBindings (bindingsOf row) :: rowsOf rest
end

end Folio.Toml
