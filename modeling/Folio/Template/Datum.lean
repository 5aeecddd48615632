import Folio.Decimal.Shortest
import Folio.Text.Quoted
import Folio.Value

/-!
# Template data

What the expressions of a template evaluate to: the values of documents, absent values, and things
that only templates make, such as name spaces, loops and procedures.

Main definitions:
- `Template.Datum`: the data
- `Datum.text`: a datum as output
- `Datum.compare`, `Datum.same`: order and equality across kinds
- `Datum.items?`, `Datum.member`, `Datum.item`: what is in a datum
- `Template.Fault`: why an expansion fails
-/

namespace Folio.Template

/-! ## Section 1: Failures -/

/-- Why an expansion fails. -/
inductive Fault where
  /-- The text is not a template. -/
  | malformed (detail : String)
  /-- No filter, test, function or method has this name. -/
  | unknown (name : String)
  /-- An operation does not apply to its operands. -/
  | invalid (detail : String)
  /-- A filter, test, function or procedure was given the wrong arguments. -/
  | badArguments (detail : String)
  /-- No template has this name. -/
  | missing (name : String)
  /-- A template with this name cannot be read. -/
  | unreadable (name : String)
  /-- Templates or procedures use each other too deeply. -/
  | tooDeep
  /-- A loop is asked to go round values of which there are none. Nothing can go on after it. -/
  | fatal
deriving DecidableEq, Inhabited

/-! ## Section 2: Data -/

/-- A datum of a template.

The entries of a map are in ascending order of their keys, each key once. `space`, `loop` and
`procedure` name something that can change while a template runs. -/
inductive Datum where
  | undefined
  | nothing
  | bool (b : Bool)
  | int (n : Int)
  | float (x : Float)
  /-- A text, and whether it is output without escaping. -/
  | str (s : String) (safe : Bool)
  | list (items : List Datum)
  /-- Items that are computed on demand: neither list nor text, but iterable. Unless it is `sized`,
  their number is not known before they are run through. -/
  | series (items : List Datum) (sized : Bool)
  | map (entries : List (Datum × Datum))
  /-- The items that share a key, as a pair of key and items. -/
  | group (key : Datum) (items : List Datum)
  /-- The named arguments of a call. -/
  | named (entries : List (Datum × Datum))
  /-- Entries in an order of their own, with a text to show for them. -/
  | record (shown : String) (entries : List (String × Datum))
  /-- A name space, by number. -/
  | space (id : Nat)
  /-- The state of a loop, by number. -/
  | loop (id : Nat)
  /-- A procedure that a template defines, by name and number. -/
  | procedure (name : String) (id : Nat)
  /-- A function that every template has. -/
  | function (name : String)
  /-- An item that could not be computed. -/
  | broken (detail : String)
deriving Inhabited

namespace Datum

/-- A plain text. -/
def ofString (s : String) : Datum := .str s false

mutual
/-- The datum of a value. -/
def ofValue : Value → Datum
  | .null => .nothing
  | .bool b => .bool b
  | .int n => .int n
  | .float x => .float x
  | .str s => .str s false
  | .list items => .list (ofValues items)
  | .object entries => .map (ofEntries entries)

/-- The data of several values. -/
def ofValues : List Value → List Datum
  | [] => []
  | v :: rest => ofValue v :: ofValues rest

/-- The entries of an object as entries of a map. -/
def ofEntries : List (String × Value) → List (Datum × Datum)
  | [] => []
  | (k, v) :: rest => (.str k false, ofValue v) :: ofEntries rest
end

/-- The name of the kind of a datum. -/
def kind : Datum → String
  | .undefined => "undefined"
  | .nothing => "none"
  | .bool _ => "bool"
  | .int _ | .float _ => "number"
  | .str _ _ => "string"
  | .list _ | .group _ _ => "sequence"
  | .map _ | .named _ | .space _ | .record _ _ | .loop _ | .procedure _ _ => "map"
  | .series _ _ => "iterator"
  | .function _ => "plain object"
  | .broken _ => "invalid value"

/-- The place of a kind in the order. -/
def rank : Datum → Nat
  | .undefined => 0
  | .nothing => 1
  | .bool _ => 2
  | .int _ | .float _ => 3
  | .str _ _ => 4
  | .list _ | .group _ _ => 5
  | .map _ | .named _ | .space _ | .record _ _ | .loop _ | .procedure _ _ => 6
  | .series _ _ => 7
  | .function _ => 8
  | .broken _ => 9

/-- Whether a datum counts as true. -/
def isTrue : Datum → Bool
  | .undefined | .nothing => false
  | .bool b => b
  | .int n => n ≠ 0
  | .float x => x != 0.0
  | .str s _ => !s.isEmpty
  | .list items => !items.isEmpty
  | .series items sized => !(sized && items.isEmpty)
  | .map entries => !entries.isEmpty
  | .named entries => !entries.isEmpty
  | .record _ entries => !entries.isEmpty
  | .broken _ => false
  | _ => true

/-- Whether a datum stands for nothing given. -/
def isAbsent : Datum → Bool
  | .undefined | .nothing => true
  | _ => false

/-- Whether a datum is undefined. -/
def isUndefined : Datum → Bool
  | .undefined => true
  | _ => false

/-- The text of a text. -/
def string? : Datum → Option String
  | .str s _ => some s
  | _ => none

/-- The items of a list, a series or a pair. -/
def elements? : Datum → Option (List Datum)
  | .list items | .series items _ => some items
  | .group key items => some [key, .series items true]
  | _ => none

/-! ## Section 3: Output -/

/-- A float as output. -/
def floatOutput (x : Float) : String :=
  let s := Decimal.floatText x
  if x.isFinite && !s.contains '.' then s ++ ".0" else s

/-- A float inside a list or a map: very large and very small ones have an exponent. -/
def floatInside (x : Float) : String :=
  match Binary64.parts x with
  | .finite negative m q =>
      let (digits, e) := Decimal.shortest m q
      let cs := (toString digits).toList
      let magnitude := e + cs.length - 1
      if m ≠ 0 ∧ (magnitude < -5 ∨ magnitude ≥ 16) then
        (if negative then "-" else "") ++ Decimal.pointed cs ++ "e" ++ toString magnitude
      else floatOutput x
  | _ => Decimal.floatText x

mutual
/-- A datum as it is shown inside a list or a map. -/
def inside : Datum → String
  | .undefined => "undefined"
  | .nothing => "None"
  | .bool b => if b then "True" else "False"
  | .int n => toString n
  | .float x => floatInside x
  | .str s _ => Text.quoted s
  | .list items => "[" ++ insideList items ++ "]"
  | .series items _ => "[" ++ insideList items ++ "]"
  | .map entries => "\x7b" ++ insideEntries entries ++ "\x7d"
  | .group key items => "[" ++ inside key ++ ", [" ++ insideList items ++ "]]"
  | .named entries => "\x7b" ++ insideEntries entries ++ "\x7d"
  | .record shown _ => shown
  | .space _ => "\x7b\x7d"
  | .loop _ => "<loop>"
  | .procedure name _ => "<macro " ++ name ++ ">"
  | .function name => "minijinja::functions::builtins::" ++ name
  | .broken detail => "<invalid value: " ++ detail ++ ">"

/-- Data with commas between them. -/
def insideList : List Datum → String
  | [] => ""
  | [d] => inside d
  | d :: rest => inside d ++ ", " ++ insideList rest

/-- Entries with commas between them. -/
def insideEntries : List (Datum × Datum) → String
  | [] => ""
  | [(k, v)] => inside k ++ ": " ++ inside v
  | (k, v) :: rest => inside k ++ ": " ++ inside v ++ ", " ++ insideEntries rest
end

/-- A datum as output. -/
def text : Datum → String
  | .undefined => ""
  | .str s _ => s
  | .float x => floatOutput x
  | d => inside d

/-- A character as it stands in markup. -/
def escapedChar (c : Char) : String :=
  match c with
  | '&' => "&amp;"
  | '<' => "&lt;"
  | '>' => "&gt;"
  | '"' => "&quot;"
  | '\'' => "&#x27;"
  | '/' => "&#x2f;"
  | c => String.singleton c

/-- A text with the characters escaped that mean something in markup. -/
def escaped (s : String) : String := String.join (s.toList.map escapedChar)

/-- A datum as output that is escaped unless it is safe. -/
def escapedText : Datum → String
  | .str s true => s
  | .str s false => escaped s
  | .undefined => ""
  | .nothing => "None"
  | .bool b => if b then "True" else "False"
  | .int n => toString n
  | .float x => floatOutput x
  | d => escaped d.text

/-! ## Section 4: Numbers -/

/-- The least whole number that arithmetic can give. -/
def minInt : Int := -(Nat.pow 2 127)

/-- The greatest whole number that arithmetic can give. -/
def maxInt : Int := Nat.pow 2 127 - 1

/-- Whether a whole number is in the range of arithmetic. -/
def inRange (n : Int) : Bool := minInt ≤ n && n ≤ maxInt

/-- The whole number that a datum counts as. -/
def int? : Datum → Option Int
  | .bool b => some (if b then 1 else 0)
  | .int n => if inRange n then some n else none
  | .float x =>
      match Binary64.toInt? x with
      | some n => if -(Nat.pow 2 63) ≤ n ∧ n < Nat.pow 2 63 then some n else none
      | none => none
  | _ => none

/-- The float that a datum counts as. Unless `lossy`, it must have the same value. -/
def float? (lossy : Bool) : Datum → Option Float
  | .bool b => some (if b then 1.0 else 0.0)
  | .int n =>
      let x := Binary64.ofInt n
      if lossy || Binary64.toInt? x = some n then some x else none
  | .float x => some x
  | _ => none

/-- Two operands brought to one kind. -/
inductive Operands where
  | ints (a b : Int)
  | floats (a b : Float)
  | strings (a b : String)

/-- Bring two operands to one kind, if there is one. -/
def operands? (lossy : Bool) : Datum → Datum → Option Operands
  | .str a _, .str b _ => some (.strings a b)
  | .float a, b => (float? lossy b).map (.floats a)
  | a, .float b => (float? lossy a).map (.floats · b)
  | a, b =>
      match int? a, int? b with
      | some a, some b => some (.ints a b)
      | _, _ => none

/-! ## Section 5: Equality and order -/

mutual
/-- Whether two data are equal. Numbers and booleans compare by value, lists and series by items. -/
def same : Datum → Datum → Bool
  | .nothing, .nothing => true
  | .undefined, .undefined => true
  | .str a _, .str b _ => a = b
  | .list xs, b => match b.elements? with
      | some ys => sameLists xs ys
      | none => false
  | .series xs _, b => match b.elements? with
      | some ys => sameLists xs ys
      | none => false
  | .group key xs, b => match b.elements? with
      | some [k, ys] => same key k && sameLists xs (ys.elements?.getD [])
      | _ => false
  | .map xs, .map ys => sameEntries xs ys
  | .named xs, .named ys => sameEntries xs ys
  | .space a, .space b => a = b
  | .loop a, .loop b => a = b
  | .procedure _ a, .procedure _ b => a = b
  | .function a, .function b => a = b
  | .int a, .int b => a = b
  | a, b =>
      match operands? false a b with
      | some (.ints a b) => a = b
      | some (.floats a b) => a == b
      | some (.strings a b) => a = b
      | none => false

/-- Whether two lists are equal item by item. -/
def sameLists : List Datum → List Datum → Bool
  | [], [] => true
  | x :: xs, y :: ys => same x y && sameLists xs ys
  | _, _ => false

/-- Whether two maps are equal entry by entry. -/
def sameEntries : List (Datum × Datum) → List (Datum × Datum) → Bool
  | [], [] => true
  | (k, v) :: xs, (l, w) :: ys => same k l && same v w && sameEntries xs ys
  | _, _ => false
end

/-- The bits of a float as a number whose order puts all floats in line. -/
def floatKey (x : Float) : Int :=
  let bits : Int := x.toBits.toNat
  if bits ≥ Nat.pow 2 63 then -(bits - Nat.pow 2 63) - 1 else bits

/-- The order of texts, character by character. -/
def compareText (a b : String) : Ordering :=
  if a < b then .lt else if a = b then .eq else .gt

mutual
/-- The order of data: by kind, and within a kind by value. -/
def compare : Datum → Datum → Ordering
  | .str a _, .str b _ => compareText a b
  | .int a, .int b => Ord.compare a b
  | .list xs, .list ys => compareLists xs ys
  | .list xs, .group k ys => compareLists xs [k, .series ys true]
  | .group k xs, b => match b with
      | .list [l, ys] => (compare k l).then (compareLists xs (ys.elements?.getD []))
      | .group l ys => (compare k l).then (compareLists xs ys)
      | b => Ord.compare 5 b.rank
  | .series xs _, .series ys _ => compareLists xs ys
  | .map xs, .map ys => compareEntries xs ys
  | .procedure a _, .procedure b _ => compareText a b
  | .function a, .function b => compareText a b
  | a, b =>
      if a.rank ≠ b.rank then Ord.compare a.rank b.rank
      else
        match operands? false a b with
        | some (.ints a b) => Ord.compare a b
        | some (.floats a b) => Ord.compare (floatKey a) (floatKey b)
        | some (.strings a b) => compareText a b
        | none => .eq

/-- The order of lists: by the first item that differs, a list before its continuations. -/
def compareLists : List Datum → List Datum → Ordering
  | [], [] => .eq
  | [], _ :: _ => .lt
  | _ :: _, [] => .gt
  | x :: xs, y :: ys => (compare x y).then (compareLists xs ys)

/-- The order of maps, as lists of entries. -/
def compareEntries : List (Datum × Datum) → List (Datum × Datum) → Ordering
  | [], [] => .eq
  | [], _ :: _ => .lt
  | _ :: _, [] => .gt
  | (k, v) :: xs, (l, w) :: ys => ((compare k l).then (compare v w)).then (compareEntries xs ys)
end

/-- Put an entry at its place in the order of keys, replacing one with the same key. -/
def place (key value : Datum) : List (Datum × Datum) → List (Datum × Datum)
  | [] => [(key, value)]
  | (k, v) :: rest =>
      match compare key k with
      | .eq => (k, value) :: rest
      | .lt => (key, value) :: (k, v) :: rest
      | .gt => (k, v) :: place key value rest

/-- Entries in the order of their keys, the last of a key counting. -/
def orderedPairs (entries : List (Datum × Datum)) : List (Datum × Datum) :=
  entries.foldl (fun acc (k, v) => place k v acc) []

/-- The map with these entries. -/
def ofPairs (entries : List (Datum × Datum)) : Datum := .map (orderedPairs entries)

/-! ## Section 6: Contents -/

/-- What iterating over a datum gives: nothing for an absent one, the characters of a text, the keys
of a map. -/
def items? : Datum → Option (List Datum)
  | .undefined | .nothing => some []
  | .str s _ => some (s.toList.map fun c => .str (String.singleton c) false)
  | .map entries => some (entries.map Prod.fst)
  | .named entries => some (entries.map Prod.fst)
  | .record _ entries => some (entries.map fun (k, _) => .str k false)
  | .procedure _ _ => some [.str "name" false, .str "arguments" false, .str "caller" false]
  | d => d.elements?

/-- The number of things in a datum. -/
def length? : Datum → Option Nat
  | .undefined | .nothing | .series _ false => none
  | d => d.items?.map List.length

/-- Whether it is known before iterating over a datum how many items there are. Texts are run
through character by character. -/
def isSized : Datum → Bool
  | .str s _ => s.isEmpty
  | .series _ sized => sized
  | _ => true

/-- The value under a key of a map. -/
def lookup (key : Datum) : List (Datum × Datum) → Option Datum
  | [] => none
  | (k, v) :: rest =>
      match compare key k with
      | .eq => some v
      | _ => lookup key rest

/-- The value under a name. -/
def lookupName (name : String) : List (String × Datum) → Option Datum
  | [] => none
  | (k, v) :: rest => if k = name then some v else lookupName name rest

/-- The entries of a map whose keys are texts, by these. -/
def namedEntries (entries : List (Datum × Datum)) : List (String × Datum) :=
  entries.filterMap fun (k, v) => k.string?.map fun name => (name, v)

/-- The position that an index names, counted from the end if it is negative. -/
def position? (length : Nat) (index : Int) : Option Nat :=
  if index ≥ 0 then some index.toNat
  else if index.natAbs ≤ length then some (length - index.natAbs) else none

/-- The attribute of a datum, undefined if it has none. -/
def member (d : Datum) (name : String) : Datum :=
  match d with
  | .map entries | .named entries => (lookup (.str name false) entries).getD .undefined
  | .record _ entries => (lookupName name entries).getD .undefined
  | .group key items =>
      if name = "grouper" then key else if name = "list" then .series items true else .undefined
  | _ => .undefined

/-- The item of a datum under a key or at an index, undefined if it has none. -/
def item (d key : Datum) : Datum :=
  match d with
  | .map entries | .named entries => (lookup key entries).getD .undefined
  | .record _ entries => (key.string?.bind fun name => lookupName name entries).getD .undefined
  | .str s _ =>
      let cs := s.toList
      match key.int?.bind (position? cs.length) with
      | some i => (cs[i]?.map fun c => Datum.ofString (String.singleton c)).getD .undefined
      | none => .undefined
  | d =>
      match d.elements? with
      | none => .undefined
      | some items =>
          match key.int?.bind (position? items.length) with
          | some i => items[i]?.getD .undefined
          | none =>
              match key.string? with
              | some name => d.member name
              | none => .undefined

/-- Whether a datum is undefined where something is looked up in it. -/
def itemOrFault (d key : Datum) : Except Fault Datum :=
  if d.isUndefined then .error (.invalid "undefined value") else .ok (d.item key)

/-- The index that a part of a path is: digits, which a plus sign may stand before. -/
def pathIndex? (part : String) : Option Nat :=
  let digits := match part.toList with
    | '+' :: rest => rest
    | cs => cs
  if digits.isEmpty || !digits.all Char.isDigit then none
  else
    let n := digits.foldl (fun n c => 10 * n + (c.toNat - 48)) 0
    if n < Nat.pow 2 64 then some n else none

/-- Follow names and indices from a datum. -/
def followPath (d : Datum) : List String → Except Fault Datum
  | [] => .ok d
  | part :: rest =>
      if d.isUndefined then .error (.invalid "undefined value")
      else
        match pathIndex? part with
        | some n => followPath (d.item (.int n)) rest
        | none => followPath (d.member part) rest

/-- The datum at a path of names and indices with dots between them. -/
def atPath (d : Datum) (path : String) : Except Fault Datum := d.followPath (path.splitOn ".")

/-- The datum at a path, or another one where the path leads nowhere. -/
def atPathOr (d : Datum) (path : String) (default : Datum) : Datum :=
  match d.atPath path with
  | .ok found => if found.isUndefined then default else found
  | .error _ => default

/-- Whether a container holds a datum. -/
def contains (container d : Datum) : Except Fault Bool :=
  match container with
  | .undefined => .ok false
  | .str s _ => .ok ((s.splitOn d.text).length > 1 || d.text.isEmpty)
  | .map entries | .named entries => .ok (lookup d entries).isSome
  | .record _ entries => .ok (d.string?.any fun name => (lookupName name entries).isSome)
  | .function _ => .ok false
  | container =>
      match container.elements? with
      | some items => .ok (items.any fun x => x.same d)
      | none => .error (.invalid "cannot perform a containment check on this value")

end Datum

end Folio.Template
