import Folio.Template.Format
import Folio.Text.Blank
import Folio.Text.Case
import Folio.Text.Split

/-!
# Filters and tests

The functions that a template applies with `|`, and the conditions it checks with `is`.

Named arguments come last, as one datum. A parameter that wants a text takes any datum by its text;
an optional one that is given none or undefined counts as missing.

Main definitions:
- `Template.applyFilter`: the result of a filter
- `Template.applyTest`: the answer of a test
-/

namespace Folio.Template

/-! ## Section 1: Arguments -/

/-- The positional arguments and the named ones. -/
def splitArguments (args : List Datum) : List Datum × List (String × Datum) :=
  match args.getLast? with
  | some (.named entries) => (args.dropLast, Datum.namedEntries entries)
  | _ => (args, [])

/-- Check the number of arguments. -/
def expectCount (args : List Datum) (least most : Nat) : Except Fault Unit :=
  if args.length < least then .error (.badArguments "missing argument")
  else if args.length > most then .error (.badArguments "too many arguments")
  else .ok ()

/-- A text that an argument must be, and whether it is safe. -/
def stringArgument : Datum → Except Fault (String × Bool)
  | .str s safe => .ok (s, safe)
  | d => .error (.invalid ("cannot convert " ++ d.kind ++ " to string"))

/-- The text that an argument gives. -/
def textArgument : Datum → Except Fault String
  | .named _ => .error (.invalid "cannot convert kwargs to string")
  | d => .ok d.text

/-- An optional argument. -/
def optional (args : List Datum) (i : Nat) : Option Datum :=
  args[i]?.bind fun d => if d.isAbsent then none else some d

/-- An optional text. -/
def optionalText (args : List Datum) (i : Nat) : Except Fault (Option String) :=
  match optional args i with
  | none => .ok none
  | some d => (textArgument d).map some

/-- A boolean argument. -/
def boolArgument : Datum → Except Fault Bool
  | .bool b => .ok b
  | _ => .error (.invalid "cannot convert to bool")

/-- An optional boolean. -/
def optionalBool (args : List Datum) (i : Nat) : Except Fault (Option Bool) :=
  match optional args i with
  | none => .ok none
  | some d => (boolArgument d).map some

/-- A whole number as an argument. -/
def intArgument (d : Datum) : Except Fault Int :=
  match d.int? with
  | some n => if -(Nat.pow 2 63) ≤ n ∧ n < Nat.pow 2 63 then .ok n else .error (.invalid "out of range")
  | none => .error (.invalid "cannot convert to integer")

/-- An optional whole number. -/
def optionalInt (args : List Datum) (i : Nat) : Except Fault (Option Int) :=
  match optional args i with
  | none => .ok none
  | some d => (intArgument d).map some

/-- A count as an argument. -/
def countArgument (d : Datum) : Except Fault Nat := do
  let n ← intArgument d
  if n < 0 then throw (.invalid "cannot convert to unsigned integer")
  return n.toNat

/-- An optional named argument. -/
def namedOption (named : List (String × Datum)) (name : String) : Option Datum :=
  (Datum.lookupName name named).bind fun d => if d.isAbsent then none else some d

/-- An optional named boolean. -/
def namedBool (named : List (String × Datum)) (name : String) : Except Fault Bool :=
  match namedOption named name with
  | none => .ok false
  | some d => boolArgument d

/-- An optional named text, which must be a text. -/
def namedText (named : List (String × Datum)) (name : String) : Except Fault (Option String) :=
  match namedOption named name with
  | none => .ok none
  | some (.str s _) => .ok (some s)
  | some _ => .error (.invalid "value is not a string")

/-- Check that all named arguments are known. -/
def expectNames (named : List (String × Datum)) (known : List String) : Except Fault Unit :=
  if named.all fun entry => known.contains entry.1 then .ok ()
  else .error (.badArguments "unknown keyword argument")

/-- The items of a datum that must be iterable. -/
def itemsOf (d : Datum) : Except Fault (List Datum) :=
  match d.items? with
  | some items => .ok items
  | none => .error (.invalid (d.kind ++ " is not iterable"))

/-! ## Section 2: Order -/

/-- The order of data for sorting. Unless `caseSensitive`, ASCII letters compare without case. -/
def sortOrder (caseSensitive : Bool) (a b : Datum) : Ordering :=
  match caseSensitive, a, b with
  | false, .str s _, .str t _ =>
      Datum.compareText (s.map Char.toLower) (t.map Char.toLower)
  | _, a, b => a.compare b

/-- Items in ascending order, or `backwards` in descending order, equal ones as they stood. -/
def sortedBy {α : Type} (order : α → α → Ordering) (backwards : Bool) (items : List α) : List α :=
  items.mergeSort fun a b => (if backwards then order b a else order a b) != .gt

/-- The first of the least items. -/
def leastOf : List Datum → Datum
  | [] => .undefined
  | d :: rest => rest.foldl (fun best x => if x.compare best == .lt then x else best) d

/-- The last of the greatest items. -/
def greatestOf : List Datum → Datum
  | [] => .undefined
  | d :: rest => rest.foldl (fun best x => if x.compare best == .lt then best else x) d

/-! ## Section 3: Filters on texts -/

/-- Every word with its first letter in upper case and the others in lower case. -/
def titleFrom : Bool → List Char → List Char
  | _, [] => []
  | atStart, c :: rest =>
      let isPunctuation := c.toNat < 128 && c.toNat > 32 && c.toNat ≠ 127 && !c.isAlphanum
      if isPunctuation || Text.isSpace c then c :: titleFrom true rest
      else if atStart then Text.upperChar c ++ titleFrom false rest
      else Text.lowerChar c ++ titleFrom false rest

/-- The first character in upper case and the others in lower case. -/
def capitalized (s : String) : String :=
  match s.toList with
  | [] => ""
  | c :: rest => String.ofList (Text.upperChar c) ++ Text.lower (String.ofList rest)

/-- A text without a line end at its end. -/
def withoutLineEnd (s : String) : String :=
  match s.toList.reverse with
  | '\n' :: '\r' :: rest => String.ofList rest.reverse
  | '\n' :: rest => String.ofList rest.reverse
  | '\r' :: rest => String.ofList rest.reverse
  | _ => s

/-- A text with its lines moved to the right: the first only if `first`, empty ones only if
`blank`. -/
def indented (s : String) (width : Nat) (first blank : Bool) : String :=
  let margin := String.ofList (List.replicate width ' ')
  let indentLine (line : String) : String :=
    if line.isEmpty then (if blank then margin else "") else margin ++ line
  let parts := (withoutLineEnd s).splitOn "\n"
  let parts := match first, parts with
    | false, line :: rest => line :: rest.map indentLine
    | _, parts => parts.map indentLine
  withoutLineEnd ("\n".intercalate parts)

/-- The float that a text spells. -/
def floatOfText? (s : String) : Option Float :=
  match Decimal.floatOfText? s.toList with
  | some x => some x
  | none =>
      let unsigned := (String.ofList (Decimal.dropSign ['-', '+'] s.toList)).map Char.toLower
      let negative := s.toList.head? = some '-'
      if unsigned = "inf" || unsigned = "infinity" then
        some (if negative then -1.0 / 0.0 else 1.0 / 0.0)
      else if unsigned = "nan" then some (0.0 / 0.0)
      else none

/-- The whole number that a text spells. -/
def intOfText? (s : String) : Option Int :=
  let negative := s.toList.head? = some '-'
  match Decimal.dropSign ['-', '+'] s.toList with
  | [] => none
  | digits =>
      if digits.all Char.isDigit then
        let n : Int := ((String.ofList digits).toNat?.getD 0 : Nat)
        let n := if negative then -n else n
        if Datum.inRange n then some n else none
      else none

/-- A float without its fraction, as a whole number in range. -/
def intOfFloat (x : Float) : Int :=
  match Binary64.parts x with
  | .nan => 0
  | .infinity negative => if negative then Datum.minInt else Datum.maxInt
  | .finite negative m q =>
      let n : Int := if q ≥ 0 then (m <<< q.toNat : Nat) else (m >>> (-q).toNat : Nat)
      max Datum.minInt (min Datum.maxInt (if negative then -n else n))

/-- The whole number of a datum. -/
def intFilter : Datum → Except Fault Datum
  | .undefined | .nothing => .ok (.int 0)
  | .bool b => .ok (.int (if b then 1 else 0))
  | .int n => .ok (.int n)
  | .float x => .ok (.int (intOfFloat x))
  | .str s _ =>
      match intOfText? s with
      | some n => .ok (.int n)
      | none =>
          match floatOfText? s with
          | some x => .ok (.int (intOfFloat x))
          | none => .error (.invalid "invalid float literal")
  | d => .error (.invalid ("cannot convert " ++ d.kind ++ " to integer"))

/-- The float of a datum. -/
def floatFilter : Datum → Except Fault Datum
  | .undefined | .nothing => .ok (.float 0.0)
  | .str s _ =>
      match floatOfText? s with
      | some x => .ok (.float x)
      | none => .error (.invalid "invalid float literal")
  | d =>
      match d.float? true with
      | some x => .ok (.float x)
      | none => .error (.invalid ("cannot convert " ++ d.kind ++ " to float"))

/-- A float rounded to a number of places, a half going away from zero. -/
def roundFilter (d : Datum) (places : Int) : Except Fault Datum :=
  match d with
  | .int n => .ok (.int n)
  | .float x =>
      let scale := Float.pow 10.0 (Binary64.ofInt places)
      .ok (.float ((scale * x).round / scale))
  | d => .error (.invalid ("cannot round value (" ++ d.kind ++ ")"))

/-! ## Section 4: Filters on lists and maps -/

/-- The items from the last to the first. -/
def reversed : Datum → Except Fault Datum
  | .undefined => .ok .undefined
  | .nothing => .ok .nothing
  | .str s _ => .ok (.ofString (String.ofList s.toList.reverse))
  | d =>
      match d.items? with
      | some items => .ok (.series items.reverse true)
      | none => .error (.invalid ("cannot reverse values of type " ++ d.kind))

/-- The first item. -/
def firstItem : Datum → Except Fault Datum
  | .undefined | .nothing => .error (.invalid "cannot get first item from value")
  | d =>
      match d.items? with
      | some items => .ok (items.head?.getD .undefined)
      | none => .error (.invalid "cannot get first item from value")

/-- The last item of a list or a text. -/
def lastItem : Datum → Except Fault Datum
  | .str s _ =>
      .ok ((s.toList.getLast?.map fun c => Datum.ofString (String.singleton c)).getD .undefined)
  | d =>
      match d.elements? with
      | some items => .ok (items.getLast?.getD .undefined)
      | none => .error (.invalid "cannot get last item from value")

/-- The texts of the items with a text between them. -/
def joined (joiner : String) (items : List Datum) : String :=
  joiner.intercalate (items.map Datum.text)

/-- Lists of `count` items each. The last is filled up, if something is given to fill it with. -/
def batches (fill : Option Datum) (count : Nat) : Nat → List Datum → List Datum
  | 0, _ => []
  | _ + 1, [] => []
  | fuel + 1, items =>
      let batch := items.take count
      let batch := match fill with
        | some d => batch ++ List.replicate (count - batch.length) d
        | none => batch
      .list batch :: batches fill count fuel (items.drop count)

/-- `count` lists of nearly equal length. The first ones have one item more; the others are filled
up, if something is given to fill them with. -/
def columns (fill : Option Datum) (count : Nat) (items : List Datum) : List Datum :=
  let each := items.length / count
  let extra := items.length % count
  (List.range count).map fun i =>
    let start := i * each + min i extra
    let column := (items.drop start).take (each + (if i < extra then 1 else 0))
    match fill with
    | some d => .list (if i < extra then column else column ++ [d])
    | none => .list column

/-- The entries of a map. -/
def entriesOf? : Datum → Option (List (Datum × Datum))
  | .map entries | .named entries => some entries
  | .record _ entries => some (entries.map fun (k, v) => (.ofString k, v))
  | _ => none

/-- The entries of a map as pairs, in an order that the named arguments choose. -/
def sortedEntries (d : Datum) (named : List (String × Datum)) : Except Fault Datum := do
  let some entries := entriesOf? d | throw (.invalid "cannot convert value into pair list")
  let byValue := (← namedText named "by") = some "value"
  let caseSensitive ← namedBool named "case_sensitive"
  let key (entry : Datum × Datum) : Datum := if byValue then entry.2 else entry.1
  let sorted := sortedBy (fun a b => sortOrder caseSensitive (key a) (key b))
    (← namedBool named "reverse") entries
  expectNames named ["by", "case_sensitive", "reverse"]
  return .list (sorted.map fun (k, v) => .list [k, v])

/-- The items in ascending order, or in one that the named arguments choose. -/
def sortFilter (d : Datum) (named : List (String × Datum)) : Except Fault Datum := do
  let items ← itemsOf d
  let caseSensitive ← namedBool named "case_sensitive"
  let order : Datum → Datum → Ordering ← match ← namedText named "attribute" with
    | none => pure (sortOrder caseSensitive)
    | some path =>
        pure fun a b =>
          (path.splitOn ",").foldl (fun found part =>
            let part := String.ofList (Text.trim part.toList)
            found.then (match a.atPath part, b.atPath part with
              | .ok x, .ok y => sortOrder caseSensitive x y
              | _, _ => .eq)) .eq
  let sorted := sortedBy order (← namedBool named "reverse") items
  expectNames named ["attribute", "case_sensitive", "reverse"]
  return .list sorted

/-- Neighbours with the same key put together. -/
def runsByKey (caseSensitive : Bool) : List (Datum × Datum) → List (Datum × List Datum)
  | [] => []
  | (key, d) :: rest =>
      match runsByKey caseSensitive rest with
      | (other, ds) :: more =>
          if sortOrder caseSensitive key other == .eq then (other, d :: ds) :: more
          else (key, [d]) :: (other, ds) :: more
      | [] => [(key, [d])]

/-- The items that share an attribute, as pairs of it and the items. -/
def groupFilter (d : Datum) (args : List Datum) (named : List (String × Datum)) :
    Except Fault Datum := do
  expectCount args 0 1
  let default := (namedOption named "default").getD .undefined
  let caseSensitive ← namedBool named "case_sensitive"
  let path ← match optional args 0 with
    | some (.str s _) => pure s
    | some _ => throw (.invalid "value is not a string")
    | none =>
        match ← namedText named "attribute" with
        | some s => pure s
        | none => throw (.badArguments "missing argument")
  let items ← itemsOf d
  expectNames named ["default", "case_sensitive", "attribute"]
  let keyed := items.map fun item => (item.atPathOr path default, item)
  let sorted := sortedBy (fun a b => sortOrder caseSensitive a.1 b.1) false keyed
  return .list ((runsByKey caseSensitive sorted).map fun (key, ds) => .group key ds)

/-- The items without those whose key was seen before. -/
def firstOfEach (key : Datum → Datum) : List Datum → List Datum → List Datum
  | _, [] => []
  | seen, d :: rest =>
      let k := key d
      if seen.any fun other => other.compare k == .eq then firstOfEach key seen rest
      else d :: firstOfEach key (k :: seen) rest

/-- The items that differ, compared without case unless asked otherwise. -/
def uniqueFilter (d : Datum) (named : List (String × Datum)) : Except Fault Datum := do
  let path ← namedText named "attribute"
  let caseSensitive ← namedBool named "case_sensitive"
  expectNames named ["attribute", "case_sensitive"]
  let items ← itemsOf d
  let key (item : Datum) : Datum :=
    let found := match path with
      | some path => item.atPathOr path .undefined
      | none => item
    match caseSensitive, found with
    | false, .str s _ => .ofString (Text.lower s)
    | _, found => found
  return .list (firstOfEach key [] items)

/-- The sum of the items, which must be numbers; undefined ones do not count. -/
def sumFilter (items : List Datum) : Except Fault Datum :=
  items.foldlM (fun acc d =>
    match d with
    | .undefined => .ok acc
    | .int _ | .float _ => acc.add d
    | d => .error (.invalid ("can only sum numbers, got " ++ d.kind))) (.int 0)

/-- Lists of the items at the same place, as long as all have one. -/
def zipped : Nat → List (List Datum) → List Datum
  | 0, _ => []
  | fuel + 1, columns =>
      match columns.mapM List.head? with
      | none => []
      | some heads => .list heads :: zipped fuel (columns.map List.tail)

/-- Maps put together, the last of a key counting; or lists as one list; or the items of several
things, one after the other, where one that cannot be iterated over stands for a broken item. -/
def chainFilter (all : List Datum) : Datum :=
  match all.mapM entriesOf? with
  | some maps => .ofPairs maps.flatten
  | none =>
      let lists := all.map fun d =>
        d.items?.getD [.broken (d.kind ++ " is not iterable")]
      if all.all fun d => d.kind = "sequence" then .list lists.flatten
      else .series lists.flatten false

mutual
/-- A datum laid out over lines, `indent` to the right. -/
def laidOut (indent : Nat) : Datum → String
  | .list items | .series items _ =>
      if items.isEmpty then "[]"
      else "[\n" ++ laidOutItems (indent + 4) items ++ String.ofList (List.replicate indent ' ') ++ "]"
  | .map entries =>
      if entries.isEmpty then "\x7b\x7d"
      else "\x7b\n" ++ laidOutEntries (indent + 4) entries
        ++ String.ofList (List.replicate indent ' ') ++ "\x7d"
  | d => d.inside

/-- Items, each on lines of its own. -/
def laidOutItems (indent : Nat) : List Datum → String
  | [] => ""
  | d :: rest =>
      String.ofList (List.replicate indent ' ') ++ laidOut indent d ++ ",\n"
        ++ laidOutItems indent rest

/-- Entries, each on lines of its own. -/
def laidOutEntries (indent : Nat) : List (Datum × Datum) → String
  | [] => ""
  | (k, v) :: rest =>
      String.ofList (List.replicate indent ' ') ++ k.inside ++ ": " ++ laidOut indent v ++ ",\n"
        ++ laidOutEntries indent rest
end

/-! ## Section 5: Tests -/

/-- The names of the tests. -/
def testNames : List String :=
  ["undefined", "defined", "none", "safe", "escaped", "odd", "even", "divisibleby", "number",
    "integer", "int", "float", "string", "sequence", "iterable", "mapping", "boolean",
    "startingwith", "endingwith", "lower", "upper", "sameas", "eq", "equalto", "==", "ne", "!=",
    "lt", "lessthan", "<", "le", "<=", "gt", "greaterthan", ">", "ge", ">=", "in", "true", "false",
    "filter", "test"]

/-- The names of the filters. -/
def filterNames : List String :=
  ["safe", "escape", "e", "lower", "upper", "title", "capitalize", "replace", "length", "count",
    "dictsort", "items", "reverse", "trim", "join", "split", "lines", "default", "d", "round",
    "abs", "int", "float", "attr", "first", "last", "min", "max", "sort", "list", "string", "bool",
    "batch", "slice", "sum", "indent", "select", "reject", "selectattr", "rejectattr", "map",
    "groupby", "unique", "chain", "zip", "pprint", "format"]

/-- Whether two data are the same thing. Lists and maps are so only by their place, which data do
not have. -/
def isIdentical : Datum → Datum → Bool
  | .int a, .int b => a = b
  | .float a, .float b => a == b
  | .list _, _ | .series _ _, _ | .map _, _ | .group _ _, _ | .named _, _ | .record _ _, _ => false
  | .int _, .float _ | .float _, .int _ => false
  | a, b => a.rank = b.rank && a.same b

/-- The tests of two data. -/
def comparisonTest? : String → Option BinaryOp
  | "eq" | "equalto" | "==" => some .eq
  | "ne" | "!=" => some .ne
  | "lt" | "lessthan" | "<" => some .lt
  | "le" | "<=" => some .le
  | "gt" | "greaterthan" | ">" => some .gt
  | "ge" | ">=" => some .ge
  | "in" => some .within
  | _ => none

/-- The answer of a test that takes no argument. -/
def simpleTest? (name : String) (d : Datum) : Option Bool :=
  match name with
  | "undefined" => some d.isUndefined
  | "defined" => some !d.isUndefined
  | "none" => some (match d with | .nothing => true | _ => false)
  | "safe" | "escaped" => some (match d with | .str _ safe => safe | _ => false)
  | "odd" => some (d.int?.any fun n => n % 2 ≠ 0)
  | "even" => some (d.int?.any fun n => n % 2 = 0)
  | "number" => some (match d with | .int _ | .float _ => true | _ => false)
  | "integer" | "int" => some (match d with | .int _ => true | _ => false)
  | "float" => some (match d with | .float _ => true | _ => false)
  | "string" => some d.string?.isSome
  | "sequence" => some (d.kind = "sequence")
  | "iterable" => some d.items?.isSome
  | "mapping" => some (d.kind = "map")
  | "boolean" => some (match d with | .bool _ => true | _ => false)
  | "lower" => some (d.text.toList.all Text.isLower)
  | "upper" => some (d.text.toList.all Text.isUpper)
  | "true" => some (match d with | .bool true => true | _ => false)
  | "false" => some (match d with | .bool false => true | _ => false)
  | "filter" => some (d.string?.any filterNames.contains)
  | "test" => some (d.string?.any testNames.contains)
  | _ => none

/-- Whether a container holds a datum. What cannot hold anything does not. -/
def Datum.isWithin (d container : Datum) : Bool :=
  match container.contains d with
  | .ok answer => answer
  | .error _ => false

/-- The answer of a test. -/
def applyTest (name : String) (d : Datum) (args : List Datum) : Except Fault Bool := do
  match simpleTest? name d with
  | some answer =>
      expectCount args 0 0
      return answer
  | none =>
      unless testNames.contains name do throw (.unknown name)
      expectCount args 1 1
      let other := args.head?.getD .undefined
      match comparisonTest? name with
      | some .within => return (d.isWithin other)
      | some op => return (← Datum.binary op d other).isTrue
      | none =>
          match name with
          | "startingwith" => return (← textArgument d).startsWith (← textArgument other)
          | "endingwith" => return (← textArgument d).endsWith (← textArgument other)
          | "divisibleby" =>
              match Datum.operands? false d other with
              | some (.ints a b) => return b ≠ 0 && a % b = 0
              | some (.floats a b) => return Binary64.remainder a b == 0.0
              | _ => return false
          | _ => return isIdentical d other

/-! ## Section 6: All filters -/

/-- Keep the items that pass a test, or with `inverted` those that do not. -/
def selected (inverted : Bool) (d : Datum) (path test : Option String) (args : List Datum) :
    Except Fault Datum := do
  if let some test := test then unless testNames.contains test do throw (.unknown test)
  let kept ← (← itemsOf d).filterM fun item => do
    let value ← match path with
      | some path => item.atPath path
      | none => pure item
    let passed ← match test with
      | some test => applyTest test value args
      | none => pure value.isTrue
    return passed != inverted
  return .list kept

/-- The attribute of each item, or a default. -/
def mapAttribute (d key default : Datum) : Except Fault Datum := do
  let values ← (← itemsOf d).mapM fun item =>
    let found := match key with
      | .str path _ => item.atPath path
      | key => item.itemOrFault key
    match found with
    | .ok found => .ok (if found.isUndefined then default else found)
    | .error e => if default.isUndefined then .error e else .ok default
  return .list values

/-- The result of a filter that calls no other one. -/
def plainFilter (name : String) (d : Datum) (args : List Datum) : Except Fault Datum := do
  let (positional, named) := splitArguments args
  match name with
  | "safe" => expectCount args 0 0; return .str (← textArgument d) true
  | "escape" | "e" =>
      expectCount args 0 0
      match d with
      | .str s true => return .str s true
      | d => return .str d.escapedText true
  | "lower" => expectCount args 0 0; return .ofString (Text.lower (← textArgument d))
  | "upper" => expectCount args 0 0; return .ofString (Text.upper (← textArgument d))
  | "title" =>
      expectCount args 0 0
      return .ofString (String.ofList (titleFrom true (← textArgument d).toList))
  | "capitalize" => expectCount args 0 0; return .ofString (capitalized (← textArgument d))
  | "replace" =>
      expectCount args 2 2
      let old ← textArgument (args[0]?.getD .undefined)
      let new ← textArgument (args[1]?.getD .undefined)
      return .ofString (Text.replaceAll old new (← textArgument d))
  | "length" | "count" =>
      expectCount args 0 0
      match d.length? with
      | some n => return .int n
      | none => throw (.invalid ("cannot calculate length of value of type " ++ d.kind))
  | "dictsort" => expectCount positional 0 0; sortedEntries d named
  | "items" =>
      expectCount args 0 0
      match entriesOf? d with
      | some entries => return .series (entries.map fun (k, v) => .list [k, v]) true
      | none => throw (.invalid "cannot convert value into pair list")
  | "reverse" => expectCount args 0 0; reversed d
  | "trim" =>
      expectCount args 0 1
      let cs := (← textArgument d).toList
      let dropped : Char → Bool ← match ← optionalText args 0 with
        | some chars => pure fun c => chars.toList.contains c
        | none => pure Text.isSpace
      return .ofString (String.ofList (Text.dropEndWhile dropped (cs.dropWhile dropped)))
  | "join" =>
      expectCount args 0 1
      let joiner ← optionalText args 0
      match d with
      | .undefined | .nothing => return .ofString ""
      | d => return .ofString (joined (joiner.getD "") (← itemsOf d))
  | "split" =>
      expectCount args 0 2
      let (s, safe) ← stringArgument d
      let separator ← match optional args 0 with
        | none => pure none
        | some separator => (some ·.1) <$> stringArgument separator
      let limit := (← optionalInt args 1).bind fun n => if n ≥ 0 then some (n.toNat + 1) else none
      let parts := match separator, limit with
        | some separator, limit => Text.splitOnText separator limit s
        | none, none => Text.runsOutside Text.isSpace s.toList
        | none, some n => (Text.partsBy Text.isSpace (n - 1) s.toList).map String.ofList
      return .series (parts.map fun part => .str part safe) false
  | "lines" =>
      expectCount args 0 0
      let (s, safe) ← stringArgument d
      return .list ((Text.lines s).map fun line => .str line safe)
  | "default" | "d" =>
      expectCount positional 0 2
      expectNames named ["default_value", "boolean"]
      let other := (positional[0]?.or (Datum.lookupName "default_value" named)).getD (.ofString "")
      let lax := (positional[1]?.or (Datum.lookupName "boolean" named)).any Datum.isTrue
      return if d.isUndefined || (lax && !d.isTrue) then other else d
  | "format" => return .ofString (← formatted (← textArgument d) positional named)
  | "round" => expectCount args 0 1; roundFilter d ((← optionalInt args 0).getD 0)
  | "abs" =>
      expectCount args 0 0
      match d with
      | .int n => return .int n.natAbs
      | .float x => return .float x.abs
      | _ => throw (.invalid "cannot get absolute value")
  | "int" => expectCount args 0 0; intFilter d
  | "float" => expectCount args 0 0; floatFilter d
  | "attr" => expectCount args 1 1; d.itemOrFault (args.head?.getD .undefined)
  | "first" => expectCount args 0 0; firstItem d
  | "last" => expectCount args 0 0; lastItem d
  | "min" => expectCount args 0 0; return leastOf (← itemsOf d)
  | "max" => expectCount args 0 0; return greatestOf (← itemsOf d)
  | "sort" => expectCount positional 0 0; sortFilter d named
  | "list" => expectCount args 0 0; return .list (← itemsOf d)
  | "string" =>
      expectCount args 0 0
      match d with
      | .str s safe => return .str s safe
      | d => return .ofString d.text
  | "bool" => expectCount args 0 0; return .bool d.isTrue
  | "batch" | "slice" =>
      expectCount args 1 2
      let count ← countArgument (args.head?.getD .undefined)
      if count = 0 then throw (.invalid "count cannot be 0")
      let items ← itemsOf d
      let fill := optional args 1
      if count > Datum.maxRepeated then throw (.invalid "too many")
      if name = "batch" then return .list (batches fill count items.length items)
      return .list (columns fill count items)
  | "sum" => expectCount args 0 0; sumFilter (← itemsOf d)
  | "indent" =>
      expectCount positional 0 3
      expectNames named ["width", "first", "blank"]
      let given (i : Nat) (name : String) : Option Datum :=
        (optional positional i).or (namedOption named name)
      let width ← match given 0 "width" with
        | some n => countArgument n
        | none => pure 4
      let flag (i : Nat) (name : String) : Except Fault Bool :=
        match given i name with
        | some b => boolArgument b
        | none => .ok false
      if width > Datum.maxRepeated then throw (.invalid "too wide")
      return .ofString (indented (← textArgument d) width (← flag 1 "first") (← flag 2 "blank"))
  | "select" | "reject" =>
      selected (name = "reject") d none (← optionalText args 0) (args.drop 1)
  | "selectattr" | "rejectattr" =>
      expectCount args 1 args.length
      selected (name = "rejectattr") d (some (← textArgument (args.head?.getD .undefined)))
        (← optionalText args 1) (args.drop 2)
  | "groupby" => groupFilter d positional named
  | "unique" => expectCount positional 0 0; uniqueFilter d named
  | "chain" => return chainFilter (d :: args)
  | "zip" =>
      let lists ← (d :: args).mapM itemsOf
      return .series (zipped ((lists.head?.getD []).length) lists) (d.isSized && args.all Datum.isSized)
  | "pprint" => expectCount args 0 0; return .ofString (laidOut 0 d)
  | _ => throw (.unknown name)

/-- The result of a filter. Each use of `map` inside `map` takes an argument away, so the number of
arguments bounds how deep they nest. -/
def applyFilterWithin : Nat → String → Datum → List Datum → Except Fault Datum
  | 0, name, _, _ => .error (.unknown name)
  | fuel + 1, name, d, args =>
      if name ≠ "map" then plainFilter name d args
      else do
        let (positional, named) := splitArguments args
        match namedOption named "attribute" with
        | some key =>
            expectCount positional 0 0
            mapAttribute d key ((Datum.lookupName "default" named).getD .undefined)
        | none =>
            match positional.head? with
            | some (.str inner _) =>
                unless filterNames.contains inner do throw (.unknown inner)
                let results ← (← itemsOf d).mapM fun item =>
                  applyFilterWithin fuel inner item (args.drop 1)
                return .list results
            | _ => throw (.invalid "filter name is required")

/-- The result of a filter. -/
def applyFilter (name : String) (d : Datum) (args : List Datum) : Except Fault Datum :=
  applyFilterWithin (args.length + 1) name d args

end Folio.Template
