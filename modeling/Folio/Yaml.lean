import Folio.Value
import Folio.Yaml.Node
import Folio.Yaml.Number

/-!
# Reading YAML as data

A YAML document as a value. Mappings become objects, the last of two equal keys counting, and any
scalar can be a key by its text. Local tags have no meaning and are refused.

Aliases are followed, with two bounds that keep the result of moderate size: collections may be
nested 128 deep, and at most a hundred aliases are followed for each event of the document.

Main definitions:
- `Yaml.readValue?`: any document
- `Yaml.readMapping?`: a document that must be a mapping or empty
-/

namespace Folio.Yaml

/-! ## Section 1: Scalars -/

/-- A whole number as a value; nothing outside the range of 64 bits with or without sign. -/
def intValue? (n : Int) : Option Value :=
  if -(Nat.pow 2 63) ≤ n ∧ n < Nat.pow 2 64 then some (.int n) else none

/-- A float as a value. What is no finite number has no value of its own. -/
def floatValue (x : Float) : Value := if x.isFinite then .float x else .null

/-- The value of a plain scalar. -/
def plainValue? (text : String) : Option Value :=
  match Plain.ofText text with
  | .null => some .null
  | .bool b => some (.bool b)
  | .int n => intValue? n
  | .float x => some (floatValue x)
  | .text => some (.str text)

/-- The value of a scalar with its tag. -/
def scalarValue? (tag : Option String) (plain : Bool) (text : String) : Option Value :=
  match tag with
  | none => if plain then plainValue? text else some (.str text)
  | some tag =>
      if tag.startsWith "!" then none
      else if tag = "tag:yaml.org,2002:bool" then (boolOfText? text).map .bool
      else if tag = "tag:yaml.org,2002:int" then (intOfText? text.toList).bind intValue?
      else if tag = "tag:yaml.org,2002:float" then (floatOfText? text.toList).map floatValue
      else if tag = "tag:yaml.org,2002:null" then
        if isNullText text then some .null else none
      else some (.str text)

/-- Whether a tag has no meaning outside of one program. -/
def isLocalTag (tag : Option String) : Bool := tag.any (·.startsWith "!")

/-! ## Section 2: Nodes -/

/-- How deep collections may be nested. -/
def depthLimit : Nat := 128

/-- The text of a key. The number counts the aliases that may still be followed. -/
def keyText? (anchors : Anchors) : Nat → Nat → Node → Option (String × Nat)
  | 0, _, _ => none
  | fuel + 1, jumps, node =>
      match node with
      | .scalar _ _ text => some (text, jumps)
      | .reference number =>
          match jumps with
          | 0 => none
          | jumps + 1 => (anchors.node? number).bind (keyText? anchors fuel jumps)
      | _ => none

mutual
/-- The value of a node. `depth` bounds the nesting and `jumps` counts the aliases that may still be
followed. -/
def nodeValue? (anchors : Anchors) :
    Nat → Nat → Nat → Node → Option (Value × Nat)
  | 0, _, _, _ => none
  | fuel + 1, depth, jumps, node =>
      match node with
      | .scalar tag plain text => (scalarValue? tag plain text).map (·, jumps)
      | .reference number =>
          match jumps with
          | 0 => none
          | jumps + 1 => (anchors.node? number).bind (nodeValue? anchors fuel depth jumps)
      | .sequence tag items =>
          match depth with
          | 0 => none
          | depth + 1 =>
              if isLocalTag tag then none
              else (itemValues? anchors fuel depth jumps items).map fun (vs, jumps) =>
                (.list vs, jumps)
      | .mapping tag entries =>
          match depth with
          | 0 => none
          | depth + 1 =>
              if isLocalTag tag then none
              else (entryValues? anchors fuel depth jumps entries).map fun (bs, jumps) =>
                (Value.ofBindings bs, jumps)

/-- The values of the items of a sequence. -/
def itemValues? (anchors : Anchors) :
    Nat → Nat → Nat → List Node → Option (List Value × Nat)
  | 0, _, _, _ => none
  | _ + 1, _, jumps, [] => some ([], jumps)
  | fuel + 1, depth, jumps, node :: rest =>
      match nodeValue? anchors fuel depth jumps node with
      | none => none
      | some (v, jumps) =>
          (itemValues? anchors fuel depth jumps rest).map fun (vs, jumps) => (v :: vs, jumps)

/-- The bindings of the entries of a mapping. -/
def entryValues? (anchors : Anchors) :
    Nat → Nat → Nat → List (Node × Node) → Option (List (String × Value) × Nat)
  | 0, _, _, _ => none
  | _ + 1, _, jumps, [] => some ([], jumps)
  | fuel + 1, depth, jumps, (key, value) :: rest =>
      match keyText? anchors 128 jumps key with
      | none => none
      | some (k, jumps) =>
          match nodeValue? anchors fuel depth jumps value with
          | none => none
          | some (v, jumps) =>
              (entryValues? anchors fuel depth jumps rest).map fun (bs, jumps) =>
                ((k, v) :: bs, jumps)
end

/-! ## Section 3: Documents -/

/-- The document that a text writes. -/
def document? (text : String) : Option Document := (tokens? text).bind Document.ofTokens?

/-- How many aliases may be followed for a document with this root. -/
def jumpLimit (root : Node) : Nat := 100 * root.eventCount

/-- Fuel for a node: every level of nesting goes through all events at most once. -/
def valueFuel (root : Node) : Nat := 200 * (root.eventCount + 2)

/-- The value of the one document that a text writes. -/
def readValue? (text : String) : Option Value := do
  let doc ← document? text
  match doc.root with
  | none => return .null
  | some root =>
      return (← nodeValue? doc.anchors (valueFuel root) depthLimit (jumpLimit root) root).1

/-- The variables that a node binds, if it is a mapping, whatever its tag, or null. -/
def mappingVariables? (anchors : Anchors) (root : Node) : Nat → Nat → Node → Option Variables
  | 0, _, _ => none
  | fuel + 1, jumps, node =>
      match node with
      | .scalar tag plain text =>
          let absent := match tag with
            | none => plain && (text.isEmpty || isNullText text)
            | some tag => plain && tag = "tag:yaml.org,2002:null" && isNullText text
          if absent then some .empty else none
      | .reference number =>
          match jumps with
          | 0 => none
          | jumps + 1 => (anchors.node? number).bind (mappingVariables? anchors root fuel jumps)
      | .sequence .. => none
      | .mapping _ entries =>
          (entryValues? anchors (valueFuel root) (depthLimit - 1) jumps entries).map fun (bs, _) =>
            .ofList bs

/-- The variables of a text that writes a mapping; none at all for an empty document or null. -/
def readMapping? (text : String) : Option Variables := do
  let doc ← document? text
  match doc.root with
  | none => return .empty
  | some root => mappingVariables? doc.anchors root 128 (jumpLimit root) root

end Folio.Yaml
