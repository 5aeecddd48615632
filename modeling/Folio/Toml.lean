import Folio.Toml.Scalar
import Folio.Toml.Table

/-!
# Settings files

A settings file is TOML 1.0: lines that put values under dotted keys, below headers that name the
table they belong to.

Main definitions:
- `Toml.value`: a value in a file
- `Toml.read?`: the entries of a file
-/

namespace Folio.Toml

/-! ## Section 1: Keys -/

/-- A character of a name without quotes. -/
def isNameChar (c : Char) : Bool := c.isAlphanum || c = '_' || c = '-'

/-- One name of a key. -/
def keyName (cs : List Char) : Option (String × List Char) :=
  match cs with
  | '"' :: rest | '\'' :: rest => oneLine (cs.headD '"') rest
  | _ =>
      let name := cs.takeWhile isNameChar
      if name.isEmpty then none else some (String.ofList name, cs.drop name.length)

/-- How many values and names may stand one in another. -/
def depthLimit : Nat := 80

/-- The names of a dotted key, one more in every step. -/
def keyNames : Nat → List Char → Option (List String × List Char)
  | 0, _ => none
  | fuel + 1, cs => do
      let (name, rest) ← keyName (skipBlanks cs)
      match skipBlanks rest with
      | '.' :: rest => do
          let (names, rest) ← keyNames fuel rest
          return (name :: names, rest)
      | rest => return ([name], rest)

/-- A dotted key: the names before the last one, and the last one. -/
def key (cs : List Char) : Option ((List String × String) × List Char) := do
  let (names, rest) ← keyNames (depthLimit - 1) cs
  return ((names.dropLast, ← names.getLast?), rest)

/-! ## Section 2: Values -/

mutual
/-- A value; `depth` lists and tables may still be opened, and every step takes `fuel`. -/
def value : Nat → Nat → List Char → Option (Value × List Char)
  | 0, _, _ => none
  | fuel + 1, depth, cs =>
      match cs, depth with
      | '[' :: _, 0 | '\x7b' :: _, 0 => none
      | '[' :: rest, depth + 1 => do
          let (items, rest) ← listItems fuel depth (skipLines rest)
          return (.list items, rest)
      | '\x7b' :: rest, depth + 1 =>
          match skipBlanks rest with
          | '\x7d' :: rest => some (.object [], rest)
          | rest => do
              let (entries, rest) ← tableEntries fuel depth [] rest
              return (Value.ofBindings (bindingsOf entries), rest)
      | _, _ => scalar cs

/-- The items of a list up to its end. A comma may follow the last one. -/
def listItems : Nat → Nat → List Char → Option (List Value × List Char)
  | 0, _, _ => none
  | fuel + 1, depth, cs =>
      match cs with
      | ']' :: rest => some ([], rest)
      | _ => do
          let (v, rest) ← value fuel depth cs
          match skipLines rest with
          | ']' :: rest => return ([v], rest)
          | ',' :: rest => do
              let (vs, rest) ← listItems fuel depth (skipLines rest)
              return (v :: vs, rest)
          | _ => none

/-- The entries of a table on one line up to its end. -/
def tableEntries : Nat → Nat → Entries → List Char → Option (Entries × List Char)
  | 0, _, _, _ => none
  | fuel + 1, depth, entries, cs => do
      let ((path, name), rest) ← key cs
      let rest ← after? '=' rest
      let (v, rest) ← value fuel depth (skipBlanks rest)
      let entries ← assign? name v path entries
      match skipBlanks rest with
      | ',' :: rest => tableEntries fuel depth entries rest
      | '\x7d' :: rest => return (entries, rest)
      | _ => none
end

/-! ## Section 3: Lines -/

/-- A file as far as it is read. -/
structure Reading where
  entries : Entries := []
  /-- The table of the last header. -/
  table : List String := []

/-- The text after the end of a line, which only a comment may delay. -/
def lineEnd? (cs : List Char) : Option (List Char) :=
  match skipComment (skipBlanks cs) with
  | [] => some []
  | cs => lineBreak? cs

/-- Read a header after its brackets, which close as they opened. -/
def headerLine (closing : List Char) (enter : String → Entries → Option Entries)
    (reading : Reading) (cs : List Char) : Option (Reading × List Char) := do
  let ((path, name), rest) ← key cs
  let rest ← if closing.isPrefixOf rest then some (rest.drop closing.length) else none
  let entries ← modify? (enter name) path reading.entries
  return ({ entries, table := path ++ [name] }, ← lineEnd? rest)

/-- Read a value and its key. -/
def valueLine (reading : Reading) (cs : List Char) : Option (Reading × List Char) := do
  let ((path, name), rest) ← key cs
  let rest ← after? '=' rest
  let (v, rest) ← value (2 * rest.length + 2) (depthLimit - 1) (skipBlanks rest)
  let entries ← modify? (assign? name v path) reading.table reading.entries
  return ({ reading with entries }, ← lineEnd? rest)

/-- Read one line, which is not empty. -/
def line (reading : Reading) (cs : List Char) : Option (Reading × List Char) :=
  match cs with
  | '[' :: '[' :: rest => headerLine [']', ']'] append? reading rest
  | '[' :: rest => headerLine [']'] open? reading rest
  | '#' :: _ | '\n' :: _ | '\r' :: _ => (lineEnd? cs).map fun rest => (reading, rest)
  | _ => valueLine reading cs

/-- Read lines. Every line takes a character. -/
def lines : Nat → Reading → List Char → Option Reading
  | 0, _, _ => none
  | fuel + 1, reading, cs =>
      match skipBlanks cs with
      | [] => some reading
      | cs =>
          match line reading cs with
          | some (reading, rest) => lines fuel reading rest
          | none => none

/-- The entries of a file. A byte order mark in front does not count. -/
def read? (text : String) : Option (List (String × Value)) := do
  let cs := match text.toList with
    | '\uFEFF' :: rest => rest
    | cs => cs
  let reading ← lines (cs.length + 1) {} cs
  return (Variables.ofList (bindingsOf reading.entries)).entries

end Folio.Toml
