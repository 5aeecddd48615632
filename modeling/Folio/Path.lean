/-!
# Paths

A path is a sequence of bytes, as file systems have it, and need not be text. Its meaning is its
components: repeated separators, separators at the end and dots after the first component do not
count. Its spelling is kept, because messages show it.

Main definitions:
- `Name`, `Component`, `Path`
- `Path.components`: the meaning of a path; `Path.equiv`, `Path.lt` compare by it
- `Path.join`, `Path.parent?`, `Path.fileName?`, `Path.extension?`, `Path.withExtension`
- `Path.display`: a path as text
-/

namespace Folio

/-! ## Section 1: Names -/

/-- The name of a file or directory, as bytes. -/
abbrev Name := List UInt8

namespace Name

/-- The bytes of a text. -/
def ofString (s : String) : Name := s.toByteArray.data.toList

/-- The text of a name that is valid UTF-8. -/
def text? (name : Name) : Option String := String.fromUTF8? ⟨name.toArray⟩

/-- The byte of a dot. -/
def dot : UInt8 := 0x2E

/-- The byte that separates names. -/
def slash : UInt8 := 0x2F

/-- Bytewise order, a name before its continuations. -/
def lt : Name → Name → Bool
  | [], [] => false
  | [], _ :: _ => true
  | _ :: _, [] => false
  | a :: as, b :: bs => if a = b then lt as bs else a < b

/-- How many bytes the character takes that begins a sequence, by its first byte. -/
def sequenceLength (b : UInt8) : Nat :=
  if b < 0x80 then 1 else if b < 0xC2 then 0 else if b < 0xE0 then 2 else if b < 0xF0 then 3
  else if b < 0xF5 then 4 else 0

/-- Whether a second byte can follow a first. -/
def secondFits (first second : UInt8) : Bool :=
  let low : UInt8 := if first = 0xE0 then 0xA0 else if first = 0xF0 then 0x90 else 0x80
  let high : UInt8 := if first = 0xED then 0x9F else if first = 0xF4 then 0x8F else 0xBF
  low ≤ second && second ≤ high

/-- Split off the first character, or the bytes that one replacement character stands for. -/
def takeChar : Name → String × Nat
  | [] => ("", 0)
  | b :: rest =>
      let continues (c : UInt8) : Bool := 0x80 ≤ c && c ≤ 0xBF
      let need := sequenceLength b
      if need ≤ 1 then
        if need = 1 then (String.singleton (Char.ofNat b.toNat), 1) else ("\uFFFD", 1)
      else
        match rest with
        | second :: more =>
            if secondFits b second then
              let tail := (more.take (need - 2)).takeWhile continues
              let bytes := b :: second :: tail
              if bytes.length = need then ((text? bytes).getD "\uFFFD", need)
              else ("\uFFFD", bytes.length)
            else ("\uFFFD", 1)
        | [] => ("\uFFFD", 1)

/-- The characters of a name, each malformed part replaced by one replacement character. -/
def displayFrom : Nat → Name → String
  | 0, _ => ""
  | _ + 1, [] => ""
  | fuel + 1, bytes =>
      let (s, count) := takeChar bytes
      s ++ displayFrom fuel (bytes.drop (max count 1))

/-- The text of a name, with replacement characters where it is not valid UTF-8. -/
def display (name : Name) : String := (text? name).getD (displayFrom (name.length + 1) name)

end Name

/-! ## Section 2: Components -/

/-- A step of a path. -/
inductive Component where
  | root
  | current
  | parent
  | normal (name : Name)
deriving DecidableEq, Inhabited

namespace Component

/-- The place of a kind of component in the order. -/
def rank : Component → Nat
  | .root => 0
  | .current => 1
  | .parent => 2
  | .normal _ => 3

/-- The order of components: by kind, names bytewise. -/
def lt : Component → Component → Bool
  | .normal a, .normal b => Name.lt a b
  | a, b => a.rank < b.rank

/-- The name that a component holds. -/
def name? : Component → Option Name
  | .normal name => some name
  | _ => none

end Component

/-! ## Section 3: Paths -/

/-- A path, by its spelling. -/
structure Path where
  bytes : List UInt8
deriving DecidableEq, Inhabited

namespace Path

/-- The path that a text spells. -/
def ofString (s : String) : Path := ⟨Name.ofString s⟩

/-- A path as text. -/
def display (p : Path) : String := Name.display p.bytes

/-- The parts between the separators. -/
def segmentsOf : List UInt8 → List Name
  | [] => [[]]
  | b :: rest =>
      if b = Name.slash then [] :: segmentsOf rest
      else
        match segmentsOf rest with
        | [] => [[b]]
        | segment :: more => (b :: segment) :: more

/-- The parts of a path between its separators. -/
def segments (p : Path) : List Name := segmentsOf p.bytes

/-- Parts put together with separators. The empty part alone spells the root. -/
def ofSegments : List Name → Path
  | [[]] => ⟨[Name.slash]⟩
  | segments => ⟨[Name.slash].intercalate segments⟩

/-- Whether a path starts at the root. -/
def isAbsolute (p : Path) : Bool := p.bytes.head? = some Name.slash

/-- What a part after the first means: nothing for a dot or for no name at all. -/
def componentOf? (segment : Name) : Option Component :=
  if segment = [] || segment = [Name.dot] then none
  else if segment = [Name.dot, Name.dot] then some .parent
  else some (.normal segment)

/-- The meaning of the parts of a path. -/
def componentsOf : List Name → List Component
  | [] => []
  | first :: rest =>
      let later := rest.filterMap componentOf?
      if first = [] then (if rest.isEmpty then [] else .root :: later)
      else if first = [Name.dot] then .current :: later
      else
        match componentOf? first with
        | some c => c :: later
        | none => later

/-- The meaning of a path. -/
def components (p : Path) : List Component := componentsOf p.segments

/-- The names along a path. -/
def names (p : Path) : List Name := p.components.filterMap Component.name?

/-- The path of the given names, one below the other. -/
def ofNames (names : List Name) : Path := ⟨[Name.slash].intercalate names⟩

/-- The path of the given names below the root. -/
def ofRootNames (names : List Name) : Path := ⟨Name.slash :: [Name.slash].intercalate names⟩

/-- Two paths with the same components. -/
def equiv (p q : Path) : Bool := p.components = q.components

/-- The order of component lists. -/
def componentsLt : List Component → List Component → Bool
  | [], [] => false
  | [], _ :: _ => true
  | _ :: _, [] => false
  | a :: as, b :: bs => if a = b then componentsLt as bs else a.lt b

/-- The order of paths, component by component. -/
def lt (p q : Path) : Bool := componentsLt p.components q.components

/-- Whether a path consists of names alone. -/
def isClean (p : Path) : Bool := p.components.all fun c => c.name?.isSome

/-! ## Section 4: Putting together and taking apart -/

/-- `q` seen from `p`: an absolute path replaces what is before it. -/
def join (p q : Path) : Path :=
  if q.isAbsolute then q
  else if p.bytes = [] || p.bytes.getLast? = some Name.slash then ⟨p.bytes ++ q.bytes⟩
  else ⟨p.bytes ++ Name.slash :: q.bytes⟩

/-- `p` with a text added to its spelling. -/
def append (p : Path) (s : String) : Path := ⟨p.bytes ++ Name.ofString s⟩

/-- Parts after the first, without those at the end that mean nothing. -/
def trimEnd (rest : List Name) : List Name :=
  (rest.reverse.dropWhile fun s => (componentOf? s).isNone).reverse

/-- Parts without those at the end that mean nothing. The first, which may spell the root, stays. -/
def trimSegments : List Name → List Name
  | [] => []
  | first :: rest => first :: trimEnd rest

/-- The path without its last component; nothing for the root and for the empty path. -/
def parent? (p : Path) : Option Path :=
  match trimSegments p.segments with
  | [] => none
  | [first] => if first = [] then none else some ⟨[]⟩
  | segments => some (ofSegments (trimSegments segments.dropLast))

/-- The last component, if it is a name. -/
def fileName? (p : Path) : Option Name := p.components.getLast?.bind Component.name?

/-- A name split before its last dot. A dot in front splits nothing off. -/
def splitExtension (name : Name) : Name × Option Name :=
  let after := (name.reverse.takeWhile (· ≠ Name.dot)).reverse
  let before := name.take (name.length - after.length - 1)
  if after.length = name.length || before = [] then (name, none) else (before, some after)

/-- The part of the file name after its last dot. -/
def extension? (p : Path) : Option Name := p.fileName?.bind fun name => (splitExtension name).2

/-- The path with the extension of its file name replaced. A path without a file name stays. -/
def withExtension (p : Path) (extension : String) : Path :=
  match p.fileName? with
  | none => p
  | some name =>
      let stem := (splitExtension name).1
      let newName := stem ++ Name.dot :: Name.ofString extension
      ⟨[Name.slash].intercalate ((trimSegments p.segments).dropLast ++ [newName])⟩

/-- Whether the components of `q` begin those of `p`. -/
def startsWith (p q : Path) : Bool := q.components.isPrefixOf p.components

/-- The parts that spell the components after the first `count`. -/
def dropComponents : Nat → List Name → List Name
  | 0, segments => segments.dropWhile fun s => (componentOf? s).isNone
  | _ + 1, [] => []
  | count + 1, s :: rest =>
      if (componentOf? s).isSome then dropComponents count rest
      else dropComponents (count + 1) rest

/-- `p` as seen from `q`, if `q` begins it. -/
def stripPrefix? (p q : Path) : Option Path :=
  if p.startsWith q then
    let count := q.components.length
    if count = 0 then some ⟨[Name.slash].intercalate (trimSegments p.segments)⟩
    else
      -- the root or a leading dot is spelled by the first part alone
      let rest := match p.components with
        | .root :: _ | .current :: _ => dropComponents (count - 1) p.segments.tail
        | _ => dropComponents count p.segments
      some ⟨[Name.slash].intercalate (trimEnd rest)⟩
  else none

end Path

end Folio
