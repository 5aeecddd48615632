import Folio.Proofs.Lua.Values

/-!
# Global variables

A global variable is bound from outside like a program would bind it, by an assignment to a field of
the table of global variables. Without a metatable on that table the assignment sets this variable and
no other one, and reading a variable gives what was set.

Main definitions:
- `Lua.Memory.global`: the value of a global variable
- `Lua.Memory.HasPlainGlobals`: the table of global variables has no metatable
- `Lua.Runtime.global`, `Lua.Runtime.HasPlainGlobals`: the same of a runtime

Main statements:
- `Lua.Machine.runOutside_finish`: a run from outside that ends at once
- `Lua.Runtime.setGlobal_of_plain`: what binding a global variable does
- `Lua.Runtime.globalText?_of_plain`: what reading one gives
- `Lua.Runtime.hasPlainGlobals_load`: there is no metatable before a program runs
-/

namespace Folio.Lua

instance (v : Val) : Decidable (v = .nil) :=
  match v with
  | .nil => isTrue rfl
  | .bool _ | .int _ | .float _ | .str _ | .table _ | .function _ | .thread _ | .file _ | .null =>
      isFalse nofun

instance (v : Val) (text : String) : Decidable (v = .ofText text) :=
  match v with
  | .str s =>
      decidable_of_iff (s.data = (Bytes.ofText text).data)
        ⟨fun same => congrArg Val.str (ByteArray.ext same),
          fun same => congrArg ByteArray.data (Val.str.inj same)⟩
  | .nil | .bool _ | .int _ | .float _ | .table _ | .function _ | .thread _ | .file _ | .null =>
      isFalse nofun

/-! ## Section 1: In memory -/

namespace Memory

variable {m : Memory} {name : String} {v : Val}

/-- The value of a global variable. -/
def global (m : Memory) (name : String) : Val := (m.table m.globals).getName name

/-- The table of global variables has no metatable. -/
def HasPlainGlobals (m : Memory) : Prop := (m.table m.globals).metatable = none

/-- The memory after an assignment to a global variable. -/
def assign (m : Memory) (name : String) (v : Val) : Memory := m.setField m.globals (.ofText name) v

theorem globals_assign (m : Memory) (name : String) (v : Val) :
    (m.assign name v).globals = m.globals := by
  unfold assign setField
  dsimp only
  split <;> rfl

theorem tables_assign (m : Memory) (name : String) (v : Val) :
    (m.assign name v).tables = m.tables.modify m.globals fun t => t.setName name v := by
  unfold assign setField
  dsimp only
  -- whether or not bytes are counted, the tables are the same
  split <;> rfl

theorem table_assign (m : Memory) (name : String) (v : Val) (id : Nat) :
    (m.assign name v).table id
      = if id = m.globals then (m.table id).setName name v else m.table id := by
  rw [table, table, tables_assign, Array.getD_eq_getD_getElem?, Array.getD_eq_getD_getElem?,
    Array.getElem?_modify]
  by_cases here : id = m.globals
  · subst here
    simp [m.hasGlobals]
  · rw [if_neg here, if_neg (Ne.symm here)]

/-- An assignment sets its variable and no other one. -/
theorem global_assign (m : Memory) (name other : String) (v : Val) :
    (m.assign name v).global other = if other = name then v else m.global other := by
  rw [global, globals_assign, table_assign, if_pos rfl, Table.getName_setName]
  rfl

theorem hasPlainGlobals_assign (plain : m.HasPlainGlobals) : (m.assign name v).HasPlainGlobals := by
  rw [HasPlainGlobals, globals_assign, table_assign, if_pos rfl, Table.metatable_setName]
  exact plain

theorem keeps_assign (m : Memory) (name : String) (v : Val) : m.Keeps (m.assign name v) where
  globals := globals_assign m name v
  size := by rw [tables_assign, Array.size_modify]
  tables id _ other := by rw [table_assign, if_neg other]

/-- Making a value changes no global variable. -/
theorem Extends.global {m' : Memory} (extends_ : m.Extends m') (name : String) :
    m'.global name = m.global name := by
  rw [Memory.global, extends_.globals, extends_.tables _ m.hasGlobals]
  rfl

theorem Extends.hasPlainGlobals {m' : Memory} (extends_ : m.Extends m') (plain : m.HasPlainGlobals) :
    m'.HasPlainGlobals := by
  rw [HasPlainGlobals, extends_.globals, extends_.tables _ m.hasGlobals]
  exact plain

/-- Without a metatable an assignment to a field of the table is one in the table. -/
theorem setIndex_of_plain (plain : m.HasPlainGlobals) (name : String) (v : Val) (next : Effect) :
    setIndex (.table m.globals) (.ofText name) v next m = next (m.assign name v) := by
  have found : m.findNewIndex (.table m.globals) (.ofText name) = .inTable m.globals := by
    rw [findNewIndex, maxChain, findNewIndexFrom]
    rw [show (m.table m.globals).metatable = none from plain]
  unfold setIndex
  rw [found]
  rfl

/-- Without a metatable a field of the table has the value that it has in the table. -/
theorem index_of_plain (plain : m.HasPlainGlobals) (name : String) (next : Val → Effect) :
    index (.table m.globals) (.ofText name) next m = next (m.global name) m := by
  have found : m.findIndex (.table m.globals) (.ofText name) = .value (m.global name) := by
    rw [findIndex, maxChain, findIndexFrom]
    rw [show (m.table m.globals).metatable = none from plain]
    have same : (m.table m.globals).get (.ofText name) = m.global name := rfl
    rw [same]
    cases m.global name <;> rfl
  have untouched : m.touched (.table m.globals) (.ofText name) = m := by
    -- only a lookup of a number can move the hint of a table
    have still : (m.table m.globals).hintAfterGet? (.ofText name) = none := by
      unfold Table.hintAfterGet?
      split <;> rfl
    unfold touched
    dsimp only
    rw [still]
  unfold index
  rw [found]
  dsimp only
  rw [untouched]

end Memory

/-! ## Section 2: Runs from outside -/

/-- A computation that returns without calling anything changes the memory alone. -/
theorem Machine.runOutside_finish {m : Machine} {c : Effect} {values : List Val} {memory : Memory}
    (finishes : c m.memory = (.finish values, memory)) :
    m.runOutside c = ({ m with memory }.atRest, .ok values) := by
  have performed : m.atRest.perform c = .act { m.atRest with memory } (.finish values) := by
    show Progress.act { m.atRest with memory := (c m.memory).2 } (c m.memory).1 = _
    rw [finishes]
  rw [runOutside, performed]
  rfl

namespace Runtime

variable {r r' : Runtime} {name : String}

/-- The value of a global variable. -/
def global (r : Runtime) (name : String) : Val := r.machine.memory.global name

/-- The table of global variables has no metatable. -/
def HasPlainGlobals (r : Runtime) : Prop := r.machine.memory.HasPlainGlobals

instance (r : Runtime) : Decidable r.HasPlainGlobals :=
  inferInstanceAs (Decidable ((r.machine.memory.table r.machine.memory.globals).metatable = none))

theorem runFrom_run (f : Val → Machine → Machine × Except Val (List Val)) (r : Runtime) :
    (Runtime.run f).runFrom r = ((f r.program r.machine).2.mapError fun _ => ⟨⟩,
      { r with machine := (f r.program r.machine).1 }) := by
  -- what is run depends on the program and the machine at the beginning alone
  have same : (Runtime.run f).runFrom r
      = (Runtime.run fun _ _ => f r.program r.machine).runFrom r := rfl
  rw [same]
  rcases f r.program r.machine with ⟨machine, _ | _⟩ <;> rfl

/-- A computation that returns at once leaves the runtime with another memory. -/
theorem compute_finish {c : Effect} {values : List Val} {memory : Memory}
    (finishes : c r.machine.memory = (.finish values, memory)) :
    ∃ r', (compute c).runFrom r = (.ok values, r') ∧ r'.machine.memory = memory := by
  refine ⟨{ r with machine := { r.machine with memory }.atRest }, ?_, rfl⟩
  rw [compute, runFrom_run, Machine.runOutside_finish finishes]
  rfl

/-- A global variable holds the value of a document, or nothing. -/
def Holds (r : Runtime) (name : String) : Option Value → Prop
  | none => r.global name = .nil
  | some value => Represents r.machine.memory value (r.global name)

/-- What a text is as the value of a global variable. -/
theorem holds_str {text : String} : r.Holds name (some (.str text)) ↔ r.global name = .ofText text := by
  constructor
  · intro holds
    have represents : Represents r.machine.memory (.str text) (r.global name) := holds
    -- the rule for texts is found once the value is a variable
    generalize r.global name = v at represents ⊢
    cases represents
    rfl
  · intro same
    show Represents _ _ (r.global name)
    rw [same]
    exact .str text

/-- A runtime after a global variable was bound, to the value of a document or to nothing. -/
structure Bound (r r' : Runtime) (name : String) (value : Option Value) : Prop where
  plain : r'.HasPlainGlobals
  keeps : r.machine.memory.Keeps r'.machine.memory
  holds : r'.Holds name value
  others : ∀ other, other ≠ name → r'.global other = r.global other

/-- What other global variables hold they still hold. -/
theorem Bound.holds_of_ne {other : String} {value value' : Option Value} (bound : Bound r r' name value)
    (differs : other ≠ name) (holds : r.Holds other value') : r'.Holds other value' := by
  have same := bound.others other differs
  cases value' with
  | none => exact same.trans holds
  | some v =>
    show Represents _ v (r'.global other)
    rw [same]
    exact Represents.keeps holds bound.keeps

/-- The value of a document in a program, or nothing. -/
def made (m : Memory) : Option Value → Val × Memory
  | none => (.nil, m)
  | some value => ofValue value m

theorem extends_made (m : Memory) (value : Option Value) : m.Extends (made m value).2 := by
  cases value with
  | none => exact .refl m
  | some value => exact extends_ofValue value m

/-- An assignment of the value of a document, or of nothing, to a global variable. -/
def assignment (name : String) (value : Option Value) : Effect := fun m =>
  setIndex (.table m.globals) (.ofText name) (made m value).1 (Effect.finish []) (made m value).2

theorem setGlobal_eq (name : String) (value : Option Value) :
    language.setGlobal name value = compute (assignment name value) >>= fun _ => pure () := by
  cases value <;> rfl

theorem assignment_of_plain {m : Memory} (plain : m.HasPlainGlobals) (name : String)
    (value : Option Value) :
    assignment name value m = (.finish [], (made m value).2.assign name (made m value).1) := by
  have extends_ := extends_made m value
  rw [assignment, ← extends_.globals, Memory.setIndex_of_plain (extends_.hasPlainGlobals plain)]
  rfl

/-- Binding a global variable binds it, and no other one. -/
theorem setGlobal_of_plain (plain : r.HasPlainGlobals) (name : String) (value : Option Value) :
    ∃ r', (language.setGlobal name value).runFrom r = (.ok (), r') ∧ Bound r r' name value := by
  obtain ⟨r', computed, memory⟩ := compute_finish (assignment_of_plain plain name value)
  refine ⟨r', by rw [setGlobal_eq, Step.runFrom_bind_ok computed]; rfl, ?_⟩
  have extends_ := extends_made r.machine.memory value
  have own : r'.global name = (made r.machine.memory value).1 := by
    rw [global, memory, Memory.global_assign, if_pos rfl]
  have keeps : (made r.machine.memory value).2.Keeps r'.machine.memory :=
    memory ▸ Memory.keeps_assign _ _ _
  constructor
  case plain =>
    rw [HasPlainGlobals, memory]
    exact Memory.hasPlainGlobals_assign (extends_.hasPlainGlobals plain)
  case keeps => exact extends_.keeps.trans keeps
  case holds =>
    cases value with
    | none => exact own
    | some value =>
      show Represents r'.machine.memory value (r'.global name)
      rw [own]
      exact (represents_ofValue value r.machine.memory).keeps keeps
  case others =>
    intro other differs
    rw [global, memory, Memory.global_assign, if_neg differs, extends_.global]
    rfl

theorem runFrom_liftExcept {α : Type} (x : Except ScriptFailure α) (r : Runtime) :
    (liftExcept x : RuntimeStep Runtime α).runFrom r = (x, r) := by
  cases x <;> rfl

/-- Reading a global variable gives its text, or nothing if it is not set. -/
theorem globalText?_of_plain (plain : r.HasPlainGlobals) (name : String) :
    ∃ r', (language.globalText? name).runFrom r = (resultText (r.global name), r') := by
  obtain ⟨r', computed, -⟩ := compute_finish (c := fun m =>
    index (.table m.globals) (.ofText name) (fun v => Effect.finish [v]) m)
    (Memory.index_of_plain plain name fun v => Effect.finish [v])
  exact ⟨r', (Step.runFrom_bind_ok computed _).trans (runFrom_liftExcept _ _)⟩

end Runtime

/-! ## Section 3: Fresh runtimes -/

namespace Memory

variable {m : Memory}

theorem hasPlainGlobals_newTable (plain : m.HasPlainGlobals) (t : Table) :
    (m.newTable t).2.HasPlainGlobals := (extends_newTable m t).hasPlainGlobals plain

theorem hasPlainGlobals_of_newTable {m' : Memory} {t : Table} {v : Val} (plain : m.HasPlainGlobals)
    (made : m.newTable t = (v, m')) : m'.HasPlainGlobals := by
  have after := hasPlainGlobals_newTable plain t
  rwa [made] at after

theorem table_modifyTable (m : Memory) (id other : Nat) (f : Table → Table) :
    (m.modifyTable other f).table id
      = if id = other ∧ id < m.tables.size then f (m.table id) else m.table id := by
  rw [table, table, modifyTable, Array.getD_eq_getD_getElem?, Array.getD_eq_getD_getElem?,
    Array.getElem?_modify]
  by_cases here : other = id
  · subst here
    by_cases inside : other < m.tables.size <;> simp [inside]
  · rw [if_neg here, if_neg fun both => here both.1.symm]

/-- Names that tables get do not change their metatables. -/
theorem hasPlainGlobals_modifyTable (plain : m.HasPlainGlobals) (id : Nat) (name : String) (v : Val) :
    (m.modifyTable id fun t => t.setName name v).HasPlainGlobals := by
  show ((m.modifyTable id _).table m.globals).metatable = none
  rw [table_modifyTable]
  split
  · rw [Table.metatable_setName]
    exact plain
  · exact plain

theorem hasPlainGlobals_of_getElem? {t : Table} (found : m.tables[m.globals]? = some t)
    (plain : t.metatable = none) : m.HasPlainGlobals := by
  rw [HasPlainGlobals, table, Array.getD_eq_getD_getElem?, found]
  exact plain

theorem metatable_groupTable (name : String) : (groupTable name).metatable = none := by
  have named (t : Table) (place : Nat) (functions : List (String × Native)) :
      (nameFunctions t place functions).metatable = t.metatable := by
    induction functions generalizing t place with
    | nil => rfl
    | cons function rest ih =>
      rw [nameFunctions, ih]
      split
      · rfl
      · exact Table.metatable_setName t _ _
  unfold groupTable
  split
  · exact named _ _ _
  · rfl

/-- The memory with a module added, as a global variable and as one that is loaded. -/
theorem hasPlainGlobals_modules (plain : m.HasPlainGlobals) (module : String → Table)
    (names : List String) :
    (names.foldl (fun (m : Memory) name =>
      let (t, m) := m.newTable (module name)
      (m.setGlobal name t).modifyTable m.loaded fun table => table.setName name t) m).HasPlainGlobals
    := by
  induction names generalizing m with
  | nil => exact plain
  | cons name rest ih =>
    exact ih (hasPlainGlobals_modifyTable (hasPlainGlobals_modifyTable
      (hasPlainGlobals_newTable plain _) _ _ _) _ _ _)

/-- Before a program runs the table of global variables has no metatable. -/
theorem hasPlainGlobals_initial : initial.HasPlainGlobals := by
  unfold initial
  -- every memory on the way is forgotten once its table of global variables is known to be plain, so
  -- that no step looks into the ones before it
  extract_lets functions m loaded
  have plain : m.HasPlainGlobals := hasPlainGlobals_of_getElem? rfl (metatable_groupTable "_G")
  clear_value m functions
  split
  rename_i preload m₁ first
  have plain₁ := hasPlainGlobals_of_newTable plain first
  split
  rename_i searchers m₂ second
  have plain₂ := hasPlainGlobals_of_newTable plain₁ second
  extract_lets m₃ m₄ m₅ strings
  have plain₃ : m₃.HasPlainGlobals := hasPlainGlobals_modules plain₂ _ moduleNames
  clear_value m₃
  have plain₅ : m₅.HasPlainGlobals := hasPlainGlobals_modifyTable
    (hasPlainGlobals_modifyTable (hasPlainGlobals_modifyTable plain₃ _ _ _) _ _ _) _ _ _
  clear_value m₅ strings
  split
  rename_i methods m₆ last
  have plain₆ := hasPlainGlobals_of_newTable plain₅ last
  extract_lets metatables m₇ m₈ m₉
  have plain₇ : m₇.HasPlainGlobals := hasPlainGlobals_newTable plain₆ _
  have plain₈ : m₈.HasPlainGlobals := hasPlainGlobals_newTable plain₇ _
  have plain₉ : m₉.HasPlainGlobals := hasPlainGlobals_newTable plain₈ _
  clear_value m₉
  exact plain₉

end Memory

/-- The global variables of a fresh runtime have no metatable. -/
theorem Runtime.hasPlainGlobals_load {name source : String} {r : Runtime}
    (loaded : language.load name source = some r) : r.HasPlainGlobals := by
  have unfolded : language.load name source = Runtime.load name source := rfl
  rw [unfolded, Runtime.load] at loaded
  split at loaded
  · cases loaded
  split at loaded
  · cases loaded
  · rename_i prototype _
    -- the memory is one without a metatable, and need not be computed
    have plain := Memory.hasPlainGlobals_initial
    generalize Memory.initial = m at loaded plain
    obtain rfl := Option.some.inj loaded
    exact plain

end Folio.Lua
