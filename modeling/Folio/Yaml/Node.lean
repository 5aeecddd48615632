import Folio.Yaml.Stream

/-!
# The nodes of a YAML document

Reads the tokens of a text as its one document.

An anchor gives the node it marks a number, and an alias refers to a number. The number of an
anchor is how many names were known before it, so that a name used a second time takes a number
that a later new name may take again; the last node that took a number is the one referred to.

Main definitions:
- `Yaml.Node`: scalars, sequences, mappings and aliases
- `Yaml.Document.ofTokens?`: the document that a list of tokens writes
-/

namespace Folio.Yaml

/-- A node of a document. A tag stands as its full text. -/
inductive Node where
  | scalar (tag : Option String) (plain : Bool) (text : String)
  | sequence (tag : Option String) (items : List Node)
  | mapping (tag : Option String) (entries : List (Node × Node))
  | reference (number : Nat)
deriving Inhabited

/-- The node of an absent value. -/
def Node.absent : Node := .scalar none true ""

mutual
/-- How many events announce a node: its own, and for a collection one more and those inside. -/
def Node.eventCount : Node → Nat
  | .scalar .. => 1
  | .reference _ => 1
  | .sequence _ items => itemEvents items + 2
  | .mapping _ entries => entryEvents entries + 2

/-- How many events announce the items of a sequence. -/
def itemEvents : List Node → Nat
  | [] => 0
  | node :: rest => node.eventCount + itemEvents rest

/-- How many events announce the entries of a mapping. -/
def entryEvents : List (Node × Node) → Nat
  | [] => 0
  | (key, value) :: rest => key.eventCount + value.eventCount + entryEvents rest
end

/-- The anchors met in a document. -/
structure Anchors where
  /-- The number last given to each name. -/
  names : List (String × Nat) := []
  /-- Which marked node took each number last, by its place among the marked nodes. -/
  holders : List (Nat × Nat) := []
  /-- How many nodes were marked. -/
  marked : Nat := 0
  /-- The marked nodes that were read to their end, by their place. -/
  nodes : List (Nat × Node) := []
deriving Inhabited

namespace Anchors

/-- Note an anchor before its node is read, and return the place of the node. -/
def mark (anchors : Anchors) (name : String) : Nat × Anchors :=
  let number := anchors.names.length
  let names := (name, number) :: anchors.names.filter (·.1 ≠ name)
  (anchors.marked,
    { anchors with
      names, holders := (number, anchors.marked) :: anchors.holders, marked := anchors.marked + 1 })

/-- The number of an alias. -/
def number? (anchors : Anchors) (name : String) : Option Nat := anchors.names.lookup name

/-- The node that a number refers to. -/
def node? (anchors : Anchors) (number : Nat) : Option Node := do
  anchors.nodes.lookup (← anchors.holders.lookup number)

end Anchors

/-- What reading works on: the tokens to come, the handles in force, and the anchors. -/
structure Reading where
  tokens : List Token
  handles : List (String × String)
  anchors : Anchors := {}
deriving Inhabited

namespace Reading

/-- The next token. -/
def next (r : Reading) : Token := r.tokens.headD .streamEnd

/-- Move over the next token. -/
def drop (r : Reading) : Reading := { r with tokens := r.tokens.tail }

/-- The full text of a tag; nothing if its handle is unknown. -/
def tagText? (r : Reading) (handle suffix : String) : Option String :=
  if handle.isEmpty then some suffix else (r.handles.lookup handle).map (· ++ suffix)

/-- Read the anchor and the tag before a node, in either order. -/
def properties (r : Reading) : Option (Option String × Option String × Reading) :=
  match r.next with
  | .anchor name =>
      match r.drop.next with
      | .tag handle suffix => do
          return (some name, some (← r.tagText? handle suffix), r.drop.drop)
      | _ => some (some name, none, r.drop)
  | .tag handle suffix => do
      let tag ← r.tagText? handle suffix
      match r.drop.next with
      | .anchor name => return (some name, some tag, r.drop.drop)
      | _ => return (none, some tag, r.drop)
  | _ => some (none, none, r)

end Reading

/-! ## Section 1: Nodes -/

mutual
/-- Read a node. Inside brackets (`block` off) no block may begin; where `dashes` is set, a block
sequence may stand without indentation of its own. -/
def readNode (block dashes : Bool) : Nat → Reading → Option (Node × Reading)
  | 0, _ => none
  | fuel + 1, r =>
      match r.next with
      | .reference name => (r.anchors.number? name).map fun number => (.reference number, r.drop)
      | _ =>
          match r.properties with
          | none => none
          | some (anchor, tag, r) =>
              match anchor with
              | none => readContent block dashes none tag fuel r
              | some name =>
                  let (place, anchors) := r.anchors.mark name
                  readContent block dashes (some place) tag fuel { r with anchors }

/-- Read the content of a node after its anchor and tag, and keep the node for aliases. -/
def readContent (block dashes : Bool) (place : Option Nat) (tag : Option String) :
    Nat → Reading → Option (Node × Reading)
  | 0, _ => none
  | fuel + 1, r =>
      let read : Option (Node × Reading) :=
        match r.next with
        | .blockEntry =>
            if dashes then
              (readDashes true fuel r).map fun (items, r) => (.sequence tag items, r)
            else if tag.isSome || place.isSome then some (.scalar tag true "", r)
            else none
        | .scalar plain text =>
            some (.scalar (if tag = some "!" then none else tag) plain text, r.drop)
        | .flowSequenceStart =>
            (readFlowItems true fuel r.drop).map fun (items, r) => (.sequence tag items, r)
        | .flowMappingStart =>
            (readFlowEntries true fuel r.drop).map fun (entries, r) => (.mapping tag entries, r)
        | .blockSequenceStart =>
            if block then
              (readDashes false fuel r.drop).map fun (items, r) => (.sequence tag items, r)
            else if tag.isSome || place.isSome then some (.scalar tag true "", r)
            else none
        | .blockMappingStart =>
            if block then
              (readEntries fuel r.drop).map fun (entries, r) => (.mapping tag entries, r)
            else if tag.isSome || place.isSome then some (.scalar tag true "", r)
            else none
        | _ => if tag.isSome || place.isSome then some (.scalar tag true "", r) else none
      match read, place with
      | some (node, r), some place =>
          some (node, { r with anchors.nodes := (place, node) :: r.anchors.nodes })
      | read, _ => read

/-- Read the entries of a block sequence. A sequence `without` indentation ends with its dashes,
any other with its block. -/
def readDashes (without : Bool) : Nat → Reading → Option (List Node × Reading)
  | 0, _ => none
  | fuel + 1, r =>
      match r.next with
      | .blockEntry =>
          let r := r.drop
          let bare := match r.next with
            | .blockEntry | .blockEnd => true
            | .key | .value => without
            | _ => false
          let item := if bare then some (Node.absent, r) else readNode true false fuel r
          match item with
          | none => none
          | some (item, r) =>
              (readDashes without fuel r).map fun (items, r) => (item :: items, r)
      | .blockEnd => some ([], if without then r else r.drop)
      | _ => if without then some ([], r) else none

/-- Read the entries of a block mapping. -/
def readEntries : Nat → Reading → Option (List (Node × Node) × Reading)
  | 0, _ => none
  | fuel + 1, r =>
      match r.next with
      | .key =>
          match readPart fuel r.drop with
          | none => none
          | some (key, r) =>
              let value := match r.next with
                | .value => readPart fuel r.drop
                | _ => some (Node.absent, r)
              match value with
              | none => none
              | some (value, r) =>
                  (readEntries fuel r).map fun (entries, r) => ((key, value) :: entries, r)
      | .blockEnd => some ([], r.drop)
      | _ => none

/-- Read the key or the value of an entry of a block mapping, which may be absent. -/
def readPart : Nat → Reading → Option (Node × Reading)
  | 0, _ => none
  | fuel + 1, r =>
      match r.next with
      | .key | .value | .blockEnd => some (Node.absent, r)
      | _ => readNode true true fuel r

/-- Read the items of a bracketed sequence. -/
def readFlowItems (first : Bool) : Nat → Reading → Option (List Node × Reading)
  | 0, _ => none
  | fuel + 1, r =>
      if r.next = .flowSequenceEnd then some ([], r.drop)
      else if !first && r.next ≠ .flowEntry then none
      else
        let r := if first then r else r.drop
        let item : Option (Node × Reading) :=
          match r.next with
          | .key => (readPair fuel r.drop).map fun (entry, r) => (.mapping none [entry], r)
          | _ => readNode false false fuel r
        if r.next = .flowSequenceEnd then some ([], r.drop)
        else
          match item with
          | none => none
          | some (item, r) =>
              (readFlowItems false fuel r).map fun (items, r) => (item :: items, r)

/-- Read the one entry of a mapping written as an item of a bracketed sequence. When its key is
absent, the token in its place is passed over. -/
def readPair : Nat → Reading → Option ((Node × Node) × Reading)
  | 0, _ => none
  | fuel + 1, r =>
      let key := match r.next with
        | .value | .flowEntry | .flowSequenceEnd => some (Node.absent, r.drop)
        | _ => readNode false false fuel r
      match key with
      | none => none
      | some (key, r) =>
          match r.next with
          | .value =>
              let r := r.drop
              match r.next with
              | .flowEntry | .flowSequenceEnd => some ((key, Node.absent), r)
              | _ => (readNode false false fuel r).map fun (value, r) => ((key, value), r)
          | _ => some ((key, Node.absent), r)

/-- Read the entries of a bracketed mapping. -/
def readFlowEntries (first : Bool) : Nat → Reading → Option (List (Node × Node) × Reading)
  | 0, _ => none
  | fuel + 1, r =>
      if r.next = .flowMappingEnd then some ([], r.drop)
      else if !first && r.next ≠ .flowEntry then none
      else
        let r := if first then r else r.drop
        if r.next = .flowMappingEnd then some ([], r.drop)
        else
          let entry : Option ((Node × Node) × Reading) :=
            match r.next with
            | .key =>
                let key := match r.drop.next with
                  | .value | .flowEntry | .flowMappingEnd => some (Node.absent, r.drop)
                  | _ => readNode false false fuel r.drop
                match key with
                | none => none
                | some (key, r) =>
                    match r.next with
                    | .value =>
                        match r.drop.next with
                        | .flowEntry | .flowMappingEnd => some ((key, Node.absent), r.drop)
                        | _ =>
                            (readNode false false fuel r.drop).map fun (value, r) =>
                              ((key, value), r)
                    | _ => some ((key, Node.absent), r)
            | _ => (readNode false false fuel r).map fun (key, r) => ((key, Node.absent), r)
          match entry with
          | none => none
          | some (entry, r) =>
              (readFlowEntries false fuel r).map fun (entries, r) => (entry :: entries, r)
end

/-! ## Section 2: Documents -/

/-- A document: its root, if it is not empty, and its anchors. -/
structure Document where
  root : Option Node
  anchors : Anchors := {}
deriving Inhabited

/-- Read the directives before a document. -/
def readDirectives : List Token → Bool → List (String × String) →
    Option (List (String × String) × List Token)
  | .version major minor :: rest, seen, handles =>
      if seen || major ≠ 1 || (minor ≠ 1 && minor ≠ 2) then none
      else readDirectives rest true handles
  | .tagAbbreviation handle expansion :: rest, seen, handles =>
      if (handles.lookup handle).isSome then none
      else readDirectives rest seen ((handle, expansion) :: handles)
  | tokens, _, handles => some (handles, tokens)

/-- The handles that need no directive. -/
def standardHandles : List (String × String) := [("!", "!"), ("!!", "tag:yaml.org,2002:")]

/-- Whether a token that follows the start of a document leaves it empty. -/
def Token.endsContent : Token → Bool
  | .version .. | .tagAbbreviation .. | .documentStart | .documentEnd | .streamEnd => true
  | _ => false

/-- The document that the tokens write; nothing if they are malformed or write more than one. -/
def Document.ofTokens? (tokens : List Token) : Option Document := do
  if tokens.headD .streamEnd = .streamEnd then return { root := none }
  let (handles, rest) ← readDirectives tokens false []
  let explicit := rest.headD .streamEnd = .documentStart
  if !explicit && rest.length ≠ tokens.length then none
  let fuel := 4 * tokens.length + 16
  let r : Reading :=
    { tokens := if explicit then rest.tail else rest, handles := handles ++ standardHandles }
  let (root, r) ←
    if explicit && r.next.endsContent then some (Node.absent, r) else readNode true false fuel r
  if (r.tokens.dropWhile (· = .documentEnd)).headD .streamEnd = .streamEnd then
    return { root := some root, anchors := r.anchors }
  else none

end Folio.Yaml
