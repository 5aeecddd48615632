/-!
# Data values

The one dynamic type of the library: what front matter, configuration, command-line variables
and templates exchange.

Main definitions:
- `Value`: null, booleans, whole numbers, floats, text, lists and objects
- `Variables`: named values, kept in ascending order of their names
- `Variables.get?`, `Variables.insert`, `Variables.merge`: look-up, update, and layering
-/

namespace Folio

/-! ## Section 1: Values -/

/-- A datum as documents and configurations write it.

The entries of an object stand in ascending order of their keys, each key once. -/
inductive Value where
  | null
  | bool (b : Bool)
  | int (n : Int)
  | float (x : Float)
  | str (s : String)
  | list (items : List Value)
  | object (entries : List (String × Value))
deriving Inhabited

namespace Value

/-- Whether the value is `null`. -/
def isNull : Value → Bool
  | .null => true
  | _ => false

/-- The text of a string value. -/
def asString? : Value → Option String
  | .str s => some s
  | _ => none

end Value

/-! ## Section 2: Named values -/

/-- A finite map from names to values.

`insert` keeps the entries in ascending order of their names, which is the order in which they are
listed. -/
structure Variables where
  /-- The entries, in order. -/
  entries : List (String × Value) := []
deriving Inhabited

namespace Variables

/-- No variables at all. -/
def empty : Variables := ⟨[]⟩

/-- The value of the first entry with this name. -/
def lookup (name : String) : List (String × Value) → Option Value
  | [] => none
  | (k, v) :: rest => if k = name then some v else lookup name rest

/-- Put an entry at its place in the order, replacing one of the same name. -/
def place (name : String) (value : Value) : List (String × Value) → List (String × Value)
  | [] => [(name, value)]
  | (k, v) :: rest =>
      if k = name then (name, value) :: rest
      else if name < k then (name, value) :: (k, v) :: rest
      else (k, v) :: place name value rest

/-- The value bound to `name`. -/
def get? (vars : Variables) (name : String) : Option Value := lookup name vars.entries

/-- Bind `name` to `value`. -/
def insert (vars : Variables) (name : String) (value : Value) : Variables :=
  ⟨place name value vars.entries⟩

/-- The variables of a list of bindings, the last binding of a name counting. -/
def ofList (bindings : List (String × Value)) : Variables :=
  bindings.foldl (fun vars (name, value) => vars.insert name value) empty

/-- `base` overlaid with `upper`: where both bind a name, `upper` wins. -/
def merge (base upper : Variables) : Variables :=
  upper.entries.foldl (fun vars (name, value) => vars.insert name value) base

/-- The variables as one value. -/
def toValue (vars : Variables) : Value := .object vars.entries

end Variables

/-- The object value with these bindings, the last binding of a key counting. -/
def Value.ofBindings (bindings : List (String × Value)) : Value :=
  (Variables.ofList bindings).toValue

end Folio
