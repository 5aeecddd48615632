import Folio.Template.Filter
import Folio.Template.Statement

/-!
# Running a template

Expressions and statements over a machine: the frames of variables, what templates create while they
run, and the output.

Each step is a function of an interpreter for the parts inside it. The interpreters are tied
together by the depth of nesting, which bounds every run.

Main definitions:
- `Template.Machine`, `Template.Run`, `Template.Interpreter`
- `Template.evaluateWith`, `Template.executeWith`: one expression, one statement
- `Template.expand`: the output of a template
-/

namespace Folio.Template

/-! ## Section 1: The machine -/

/-- Where a frame finds the variables that are not its own. -/
inductive Base where
  | nowhere
  | vars (entries : List (String × Datum))
  | cell (id : Nat)

/-- A level of variables. -/
structure Frame where
  locals : List (String × Datum) := []
  base : Base := .nowhere
  /-- The loop that the frame belongs to, and whether the variable `loop` names it. -/
  loop : Option (Nat × Bool) := none
  /-- The cell that procedures defined in the frame share. -/
  captured : Option Nat := none

/-- A loop that runs. -/
structure LoopState where
  items : List Datum
  /-- Whether the number of items is known from the start. -/
  sized : Bool := true
  /-- The number of the current item, once there is one. -/
  index : Option Nat := none
  depth : Nat := 0
  /-- The arguments of the last `changed`. -/
  last : Option (List Datum) := none
  /-- The target and body to run again for a loop that can call itself. -/
  again : Option (Target × List Statement) := none

/-- A procedure with the cell of the variables that it mentions. -/
structure ClosedProcedure where
  procedure : Procedure
  cell : Nat

/-- Everything that changes while templates run. -/
structure Machine where
  /-- The frames, innermost first. -/
  frames : List Frame
  /-- Name spaces and shared variables. -/
  cells : Array (List (String × Datum)) := #[]
  loops : Array LoopState := #[]
  procedures : Array ClosedProcedure := #[]
  output : String := ""
  /-- Whether output is dropped. -/
  discarding : Bool := false
  /-- Whether output is escaped. -/
  escaping : Bool := false
  /-- The depth of templates and procedures around the frames. -/
  depth : Nat := 0
  /-- The definitions of each block, that of the outermost descendant first. -/
  blocks : List (String × List (List Statement)) := []
  /-- The block that runs, and which of its definitions. -/
  current : Option (String × Nat) := none
  /-- The templates that were extended. -/
  ancestors : List String := []
  /-- The body of the template that is to run next, because this one extends it. -/
  parent : Option (List Statement) := none

/-- A computation on the machine. -/
abbrev Run (α : Type) := StateT Machine (Except Fault) α

/-- How deep frames, templates and procedures can go. -/
def maxDepth : Nat := 500

/-- What including a template adds to the depth. -/
def includeDepth : Nat := 10

/-- What calling a procedure adds to the depth. -/
def procedureDepth : Nat := 4

/-- Fail if the machine is too deep. -/
def checkDepth : Run Unit := do
  let m ← get
  if m.depth + m.frames.length > maxDepth then throw .tooDeep

/-- Run with one more frame. -/
def withFrame {α : Type} (frame : Frame) (run : Run α) : Run α := do
  modify fun m => { m with frames := frame :: m.frames }
  checkDepth
  let a ← run
  modify fun m => { m with frames := m.frames.tail }
  return a

/-- Append to the output. -/
def emit (s : String) : Run Unit :=
  modify fun m => if m.discarding then m else { m with output := m.output ++ s }

/-- Run and give the output instead of appending it. It is safe where output is escaped. -/
def capture (run : Run Unit) : Run Datum := do
  let outside ← get
  set { outside with output := "", discarding := false }
  run
  let m ← get
  set { m with output := outside.output, discarding := outside.discarding }
  return .str m.output m.escaping

/-! ## Section 2: Variables -/

/-- Bind a name, replacing what it was bound to. -/
def bind (name : String) (d : Datum) : List (String × Datum) → List (String × Datum)
  | [] => [(name, d)]
  | (k, v) :: rest => if k = name then (name, d) :: rest else (k, v) :: bind name d rest

/-- Bind a name in entries that stand in the order of their names. -/
def placeName (name : String) (d : Datum) : List (String × Datum) → List (String × Datum)
  | [] => [(name, d)]
  | (k, v) :: rest =>
      if k = name then (name, d) :: rest
      else if name < k then (name, d) :: (k, v) :: rest
      else (k, v) :: placeName name d rest

/-- The functions that every template has. -/
def functionNames : List String := ["range", "dict", "debug", "namespace"]

/-- The value of a variable that a base gives; undefined ones do not count. -/
def Base.lookup? (cells : Array (List (String × Datum))) (name : String) : Base → Option Datum
  | .nowhere => none
  | .vars entries => (Datum.lookupName name entries).filter fun d => !d.isUndefined
  | .cell id => ((cells[id]?).bind (Datum.lookupName name)).filter fun d => !d.isUndefined

/-- The value of a variable in frames, from the innermost. -/
def lookupFrames (cells : Array (List (String × Datum))) (name : String) :
    List Frame → Option Datum
  | [] => none
  | frame :: rest =>
      match Datum.lookupName name frame.locals with
      | some d => some d
      | none =>
          match frame.loop with
          | some (id, true) =>
              if name = "loop" then some (.loop id)
              else (frame.base.lookup? cells name).or (lookupFrames cells name rest)
          | _ => (frame.base.lookup? cells name).or (lookupFrames cells name rest)

/-- The value of a variable, if there is one. -/
def lookup? (name : String) : Run (Option Datum) := do
  let m ← get
  match lookupFrames m.cells name m.frames with
  | some d => return some d
  | none => return if functionNames.contains name then some (.function name) else none

/-- Change a cell. -/
def modifyCell (id : Nat) (f : List (String × Datum) → List (String × Datum)) : Run Unit :=
  modify fun m => { m with cells := m.cells.modify id f }

/-- Bind a variable in the innermost frame, also for the procedures defined there. -/
def store (name : String) (d : Datum) : Run Unit := do
  let m ← get
  match m.frames with
  | [] => return
  | frame :: rest =>
      set { m with frames := { frame with locals := bind name d frame.locals } :: rest }
      match frame.captured with
      | some id => modifyCell id (bind name d)
      | none => return

/-- A new cell. -/
def newCell (entries : List (String × Datum)) : Run Nat := do
  let m ← get
  set { m with cells := m.cells.push entries }
  return m.cells.size

/-- The cell that procedures defined in the innermost frame share, holding at least the given
variables. -/
def captureVariables (names : List String) : Run Nat := do
  let m ← get
  let id ← match m.frames with
    | frame :: rest =>
        match frame.captured with
        | some id => pure id
        | none =>
            let id ← newCell []
            modify fun m => { m with frames := { frame with captured := some id } :: rest }
            pure id
    | [] => newCell []
  for name in names do
    let known := ((← get).cells[id]?.getD []).any fun entry => entry.1 = name
    unless known do
      let d := (← lookup? name).getD .undefined
      modifyCell id (bind name d)
  return id

/-! ## Section 3: Things with a state -/

/-- How deeply the contents of name spaces are followed. -/
def maxFrozen : Nat := 64

/-- The names of the attributes of a loop. -/
def loopNames : List String :=
  ["index0", "index", "length", "revindex", "revindex0", "first", "last", "depth", "depth0",
    "previtem", "nextitem"]

/-- An attribute of a loop. What depends on the number of items is undefined if that is unknown. -/
def LoopState.member (l : LoopState) (name : String) : Datum :=
  match l.index with
  | none => .undefined
  | some i =>
      let length := l.items.length
      let counted (n : Nat) : Datum := if l.sized then .int n else .undefined
      match name with
      | "index0" => .int i
      | "index" => .int (i + 1)
      | "length" => counted length
      | "revindex" => counted (length - i)
      | "revindex0" => counted (length - i - 1)
      | "first" => .bool (i = 0)
      | "last" => .bool (l.sized && i + 1 ≥ length)
      | "depth" => .int (l.depth + 1)
      | "depth0" => .int l.depth
      | "previtem" => if i = 0 then .undefined else l.items[i - 1]?.getD .undefined
      | "nextitem" => l.items[i + 1]?.getD .undefined
      | _ => .undefined

/-- The text of a loop. -/
def LoopState.text (l : LoopState) : String :=
  "<loop " ++ toString (l.index.getD 0) ++ "/"
    ++ (if l.sized then toString l.items.length else "?") ++ ">"

/-- A datum with name spaces replaced by what they hold, and loops by their attributes. -/
def freeze (m : Machine) : Nat → Datum → Datum
  | 0, _ => .broken "too deep"
  | n + 1, d =>
      match d with
      | .space id =>
          .map ((m.cells[id]?.getD []).map fun (k, v) => (.ofString k, freeze m n v))
      | .loop id =>
          match m.loops[id]? with
          | some l => .record l.text (loopNames.map fun name => (name, freeze m n (l.member name)))
          | none => .undefined
      | .list items => .list (items.map (freeze m n))
      | .series items sized => .series (items.map (freeze m n)) sized
      | .map entries => .map (entries.map fun (k, v) => (freeze m n k, freeze m n v))
      | .group key items => .group (freeze m n key) (items.map (freeze m n))
      | .named entries => .named (entries.map fun (k, v) => (freeze m n k, freeze m n v))
      | .record shown entries => .record shown (entries.map fun (k, v) => (k, freeze m n v))
      | d => d

/-- Whether a datum holds nothing that changes. -/
def isFixed : Datum → Bool
  | .space _ | .loop _ | .list _ | .series _ _ | .map _ | .group _ _ | .named _ | .record _ _ => false
  | _ => true

/-- A datum as it is now. -/
def frozen (d : Datum) : Run Datum := do
  if isFixed d then return d else return freeze (← get) maxFrozen d

/-- A datum that could be computed. -/
def valid : Datum → Except Fault Datum
  | .broken detail => .error (.invalid detail)
  | d => .ok d

/-- Whether a procedure takes what calls it. -/
def Procedure.wantsCaller (p : Procedure) : Bool := p.mentioned.contains "caller"

/-- An attribute of a procedure. -/
def Procedure.member (p : Procedure) (name : String) : Datum :=
  match name with
  | "name" => .ofString p.name
  | "arguments" => .list (p.parameters.map fun (parameter, _) => .ofString parameter)
  | "caller" => .bool p.wantsCaller
  | _ => .undefined

/-- An attribute of a datum. -/
def memberOf (d : Datum) (name : String) : Run Datum := do
  let m ← get
  match d with
  | .space id => return ((m.cells[id]?).bind (Datum.lookupName name)).getD .undefined
  | .loop id => return (m.loops[id]?.map fun l => l.member name).getD .undefined
  | .procedure _ id =>
      return (m.procedures[id]?.map fun p => p.procedure.member name).getD .undefined
  | d => return d.member name

/-- The item of a datum under a key. -/
def itemOf (d key : Datum) : Run Datum := do
  match d, key with
  | .space _, .str name _ | .loop _, .str name _ | .procedure _ _, .str name _ => memberOf d name
  | d, key => valid (d.item (← frozen key))

/-- The items of a datum. -/
def iterate (d : Datum) : Run (List Datum) := do
  match d with
  | .space id => return ((← get).cells[id]?.getD []).map fun (k, _) => .ofString k
  | .loop _ => itemsOf (← frozen d)
  | d => itemsOf d

/-! ## Section 4: Calls -/

/-- An interpreter for what is nested in a step. -/
structure Interpreter where
  /-- The source of the template with a name, if there is one. -/
  load : String → Except Fault (Option String)
  evaluate : Expression → Run Datum
  execute : List Statement → Run Unit

mutual
/-- The blocks that a statement defines. -/
def blocksIn : Statement → List (String × List Statement)
  | .block name _ body => (name, body) :: blocksInAll body
  | .forLoop _ _ _ _ body otherwise => blocksInAll body ++ blocksInAll otherwise
  | .conditional _ yes no => blocksInAll yes ++ blocksInAll no
  | .scoped _ body | .assignBlock _ _ body | .autoescape _ body | .filterBlock _ body =>
      blocksInAll body
  | _ => []

/-- The blocks that statements define. -/
def blocksInAll : List Statement → List (String × List Statement)
  | [] => []
  | s :: rest => blocksIn s ++ blocksInAll rest
end

/-- The definitions of blocks with those of a further ancestor. -/
def addBlocks (known : List (String × List (List Statement)))
    (added : List (String × List Statement)) : List (String × List (List Statement)) :=
  added.foldl (fun acc (name, body) =>
    if acc.any fun entry => entry.1 = name then
      acc.map fun entry => if entry.1 = name then (name, entry.2 ++ [body]) else entry
    else acc ++ [(name, [body])]) known

/-- Run a body, and then that of the template that it extends, if it does, whose output counts
instead. Every template can be extended once, so their number bounds the steps. -/
def runBody (self : Interpreter) : Nat → List Statement → Run Unit
  | 0, _ => throw .tooDeep
  | fuel + 1, statements => do
      let outside ← get
      set { outside with parent := none }
      self.execute statements
      let m ← get
      set { m with parent := outside.parent, discarding := outside.discarding }
      match m.parent with
      | none => return
      | some parent => runBody self fuel parent

/-- Run a body with the templates that it extends. -/
def runWhole (self : Interpreter) (statements : List Statement) : Run Unit :=
  runBody self maxDepth statements

/-- Run one of the definitions of a block. -/
def runBlock (self : Interpreter) (name : String) (level : Nat) : Run Unit := do
  let m ← get
  match (m.blocks.find? fun entry => entry.1 = name).bind fun entry => entry.2[level]? with
  | none => throw (.unknown name)
  | some statements =>
      set { m with current := some (name, level) }
      withFrame {} (runWhole self statements)
      modify fun after => { after with current := m.current }

/-- Named arguments in the order of their names. -/
def orderedNames (entries : List (String × Datum)) : List (String × Datum) :=
  entries.foldl (fun acc (k, d) => placeName k d acc) []

/-- The arguments of a call. Named ones become one datum at the end. -/
def evaluateArguments (self : Interpreter) (args : List Argument)
    (more : List (String × Datum)) : Run (List Datum) := do
  let mut positional : List Datum := []
  let mut named : List (Datum × Datum) := []
  for arg in args do
    match arg with
    | .positional e => positional := (← self.evaluate e) :: positional
    | .named name e => named := (.ofString name, ← self.evaluate e) :: named
    | .spread e => positional := (← iterate (← self.evaluate e)).reverse ++ positional
    | .spreadNamed e =>
        match entriesOf? (← frozen (← self.evaluate e)) with
        | some entries => named := entries.reverse ++ named
        | none => throw (.badArguments "expected a map for keyword arguments")
  let hasNamed := !more.isEmpty || args.any fun arg => match arg with
    | .named _ _ | .spreadNamed _ => true
    | _ => false
  if hasNamed then
    let more := more.map fun (name, d) => (Datum.ofString name, d)
    return positional.reverse ++ [.named (Datum.orderedPairs (named.reverse ++ more))]
  return positional.reverse

/-- The value that a call gives to a parameter. -/
def givenValue (positional : List Datum) (named : List (String × Datum)) (i : Nat)
    (parameter : String) : Except Fault Datum :=
  match positional[i]?, Datum.lookupName parameter named with
  | some _, some _ => .error (.badArguments "duplicate argument")
  | some d, none => .ok d
  | none, some d => .ok d
  | none, none => .ok .undefined

/-- Call a procedure. Its parameters are set from the last to the first, those without a value to
their default. -/
def callProcedure (self : Interpreter) (closed : ClosedProcedure) (args : List Datum) :
    Run Datum := do
  let p := closed.procedure
  let (positional, named) := splitArguments args
  if positional.length > p.parameters.length then throw (.badArguments "too many arguments")
  let given ← (p.parameters.zipIdx).mapM fun ((parameter, default), i) => do
    return (parameter, default, ← givenValue positional named i parameter)
  let known := p.parameters.map Prod.fst ++ (if p.wantsCaller then ["caller"] else [])
  expectNames named known
  let outside ← get
  let caller := if p.wantsCaller then
      [("caller", (Datum.lookupName "caller" named).getD .undefined)] else []
  set { outside with
    depth := outside.depth + outside.frames.length + procedureDepth
    frames := [{ locals := caller, base := .cell closed.cell }] }
  checkDepth
  let result ← capture do
    for (parameter, default, d) in given.reverse do
      match default with
      | some e => if d.isUndefined then store parameter (← self.evaluate e) else store parameter d
      | none => store parameter d
    runWhole self p.body
  modify fun m => { m with depth := outside.depth, frames := outside.frames }
  return result

/-- The greatest number of items that `range` gives. -/
def maxRange : Nat := 100000

/-- The whole numbers from a first up to a limit, by steps. -/
def rangeItems (args : List Datum) : Except Fault Datum := do
  expectCount args 1 3
  let first ← intArgument (args.head?.getD .undefined)
  let (low, high) ← match ← optionalInt args 1 with
    | some high => pure (first, high)
    | none => pure (0, first)
  let step := (← optionalInt args 2).getD 1
  if step = 0 then throw (.invalid "cannot create range with step of 0")
  let distance := if step > 0 then high - low else low - high
  let count := ((distance + step.natAbs - 1) / step.natAbs).toNat
  if count > maxRange then throw (.invalid "range has too many elements")
  return .series ((List.range count).map fun (i : Nat) => .int (low + step * (i : Int))) true

/-- The entries that a function which makes a map starts from. -/
def startingEntries : Option Datum → Except Fault (List (Datum × Datum))
  | none => .ok []
  | some d =>
      match entriesOf? d with
      | some entries => .ok entries
      | none => .error (.invalid "expected object or keyword arguments")

/-- Call a function that every template has. -/
def callFunction (name : String) (args : List Datum) : Run Datum := do
  match name with
  | "range" => rangeItems (← args.mapM frozen)
  | "dict" =>
      let args ← args.mapM frozen
      let (positional, named) := match args.getLast? with
        | some (.named entries) => (args.dropLast, entries)
        | _ => (args, [])
      expectCount positional 0 1
      let entries ← startingEntries (optional positional 0)
      return .map (Datum.orderedPairs (entries ++ named))
  | "namespace" =>
      expectCount args 0 1
      let entries ← startingEntries ((← args.mapM frozen).head?.filter fun d => !d.isAbsent)
      return .space (← newCell (orderedNames (Datum.namedEntries entries)))
  | _ =>
      match ← args.mapM frozen with
      | [] => return .ofString ""
      | [d] => return .ofString (laidOut 0 d)
      | ds => return .ofString (laidOut 0 (.list ds))

/-- Call a datum. -/
def callDatum (self : Interpreter) (f : Datum) (args : List Datum) : Run Datum := do
  match f with
  | .procedure _ id =>
      match (← get).procedures[id]? with
      | some closed => callProcedure self closed args
      | none => throw (.invalid "cannot call this macro")
  | .function name => callFunction name args
  | f => throw (.invalid ("value of type " ++ f.kind ++ " is not callable"))

/-- Change a loop. -/
def modifyLoop (id : Nat) (f : LoopState → LoopState) : Run Unit :=
  modify fun m => { m with loops := m.loops.modify id f }

/-- Call a method of a loop. -/
def callLoopMethod (id : Nat) (name : String) (args : List Datum) : Run Datum := do
  match (← get).loops[id]? with
  | none => throw (.unknown name)
  | some l =>
      match name with
      | "changed" =>
          let now ← args.mapM frozen
          let changed := match l.last with
            | some last => !Datum.sameLists last now
            | none => true
          if changed then modifyLoop id fun l => { l with last := some now }
          return .bool changed
      | "cycle" =>
          if args.isEmpty then throw .fatal
          let i := l.index.getD 0
          return args[i % args.length]?.getD .undefined
      | _ => throw (.unknown name)

/-- Call a method of a datum. -/
def callMethod (self : Interpreter) (d : Datum) (name : String) (args : List Datum) :
    Run Datum := do
  match d with
  | .loop id => callLoopMethod id name args
  | .map _ | .named _ | .space _ | .record _ _ =>
      match ← memberOf d name with
      | .undefined => throw (.unknown name)
      | f => callDatum self f args
  | _ => throw (.unknown name)

/-! ## Section 5: Loops -/

/-- The innermost loop that runs. -/
def currentLoop? : List Frame → Option Nat
  | [] => none
  | frame :: rest =>
      match frame.loop with
      | some (id, _) => some id
      | none => currentLoop? rest

/-- Assign to a target. -/
def assign (self : Interpreter) : Target → Datum → Run Unit
  | .name name, d => store name d
  | .member e name, d => do
      match ← self.evaluate e with
      | .space id => modifyCell id (placeName name d)
      | other => throw (.invalid ("can only assign to namespaces, not " ++ other.kind))
  | .tuple targets, d => do
      let items ← match d with
        | .str _ _ | .undefined | .nothing => throw (.invalid "cannot unpack")
        | d => itemsOf d
      if items.length ≠ targets.length then throw (.invalid "sequence of wrong length")
      assignAll targets items
where
  /-- Assign items to targets one by one. -/
  assignAll : List Target → List Datum → Run Unit
    | t :: ts, d :: ds => do
        assign self t d
        assignAll ts ds
    | _, _ => return

/-- Run the body of a loop for each item. -/
def runLoop (self : Interpreter) (target : Target) (recursive : Bool) (items : List Datum)
    (sized : Bool) (statements : List Statement) : Run Unit := do
  let m ← get
  let depth := match (currentLoop? m.frames).bind fun id => m.loops[id]? with
    | some outer => if outer.again.isSome then outer.depth + 1 else 0
    | none => 0
  let again := if recursive then some (target, statements) else none
  let id := m.loops.size
  set { m with loops := m.loops.push { items, sized, depth, again } }
  withFrame { loop := some (id, true) } do
    for (d, i) in items.zipIdx do
      modifyLoop id fun l => { l with index := some i }
      assign self target (← valid d)
      self.execute statements

/-- Run the innermost loop again on other items, from inside its body. -/
def repeatLoop (self : Interpreter) (d : Datum) : Run Datum := do
  let m ← get
  match (currentLoop? m.frames).bind fun id => m.loops[id]?.bind LoopState.again with
  | none => throw (.invalid "cannot recurse outside of recursive loop")
  | some (target, statements) =>
      let items ← iterate d
      capture (runLoop self target true items d.isSized statements)

/-- The items that satisfy the condition of a loop. -/
def filterItems (self : Interpreter) (target : Target) (condition : Expression)
    (items : List Datum) : Run (List Datum) := do
  let m ← get
  let id := m.loops.size
  set { m with loops := m.loops.push { items } }
  withFrame { loop := some (id, false) } do
    items.filterM fun d => do
      assign self target (← valid d)
      return (← self.evaluate condition).isTrue

/-! ## Section 6: Expressions -/

/-- The result of a call. -/
def evaluateCall (self : Interpreter) (f : Expression) (args : List Argument)
    (more : List (String × Datum)) : Run Datum := do
  match f with
  | .variable "super" =>
      unless args.isEmpty && more.isEmpty do throw (.badArguments "super() takes no arguments")
      match (← get).current with
      | none => throw (.invalid "cannot super outside of block")
      | some (name, level) => capture (runBlock self name (level + 1))
  | .variable "loop" =>
      match ← evaluateArguments self args more with
      | [d] => repeatLoop self d
      | _ => throw (.badArguments "loop() takes one argument")
  | .variable name =>
      let args ← evaluateArguments self args more
      match ← lookup? name with
      | none => throw (.unknown name)
      | some g => callDatum self g args
  | .member (.variable "self") name => capture (runBlock self name 0)
  | .member e name =>
      let d ← self.evaluate e
      callMethod self d name (← evaluateArguments self args more)
  | e =>
      let g ← self.evaluate e
      callDatum self g (← evaluateArguments self args more)

/-- Whether each comparison in a row holds, from a first operand on. Operands after one that fails
are not evaluated. -/
def compareAll (self : Interpreter) (x : Datum) : List (Comparison × Expression) → Run Datum
  | [] => return .bool true
  | (c, e) :: rest => do
      let y ← frozen (← self.evaluate e)
      let holds ← match c with
        | .op op => (Datum.binary op x y).map Datum.isTrue
        | .notWithin => (y.contains x).map not
      if holds then compareAll self y rest else return .bool false

/-- An optional expression, none where there is none. -/
def evaluateOption (self : Interpreter) : Option Expression → Run Datum
  | none => return .nothing
  | some e => self.evaluate e

/-- The value of an expression. -/
def evaluateWith (self : Interpreter) (e : Expression) : Run Datum := do
  match e with
  | .variable name => return (← lookup? name).getD .undefined
  | .constant d => return d
  | .list items => return .list (← items.mapM self.evaluate)
  | .map entries =>
      let pairs ← entries.mapM fun (k, v) => do
        let k ← self.evaluate k
        return (k, ← self.evaluate v)
      return .ofPairs pairs
  | .unary .not e => return .bool !(← frozen (← self.evaluate e)).isTrue
  | .unary .neg e => (← self.evaluate e).negate
  | .binary .or a b =>
      let x ← self.evaluate a
      if (← frozen x).isTrue then return x else self.evaluate b
  | .binary .and a b =>
      let x ← self.evaluate a
      if (← frozen x).isTrue then self.evaluate b else return x
  | .binary op a b =>
      let x ← frozen (← self.evaluate a)
      let y ← frozen (← self.evaluate b)
      Datum.binary op x y
  | .compared first links => compareAll self (← frozen (← self.evaluate first)) links
  | .choice test yes no =>
      if (← frozen (← self.evaluate test)).isTrue then self.evaluate yes
      else match no with
        | some no => self.evaluate no
        | none => return .undefined
  | .filter e name args =>
      let d ← frozen (← self.evaluate e)
      let args ← (← evaluateArguments self args []).mapM frozen
      valid (← applyFilter name d args)
  | .test e name args =>
      let d ← frozen (← self.evaluate e)
      let args ← (← evaluateArguments self args []).mapM frozen
      return .bool (← applyTest name d args)
  | .member e name => memberOf (← self.evaluate e) name
  | .item e key =>
      let d ← self.evaluate e
      itemOf d (← self.evaluate key)
  | .slice e start stop step =>
      let d ← self.evaluate e
      let start ← evaluateOption self start
      let stop ← evaluateOption self stop
      let step ← evaluateOption self step
      d.slice start stop step
  | .call f args => evaluateCall self f args []

/-! ## Section 7: Statements -/

/-- Create a procedure with the variables that it mentions. -/
def closeProcedure (p : Procedure) : Run Datum := do
  let cell ← captureVariables (p.mentioned.filter (· ≠ "caller"))
  let m ← get
  set { m with procedures := m.procedures.push ⟨p, cell⟩ }
  return .procedure p.name m.procedures.size

/-- The body of the template with a name. -/
def loadStatements (self : Interpreter) (name : String) : Run (List Statement) := do
  match ← self.load name with
  | none => throw (.missing name)
  | some source => statements source

/-- Run a template in place, with its own blocks. -/
def includeTemplate (self : Interpreter) (body : List Statement) : Run Unit := do
  let outside ← get
  set { outside with
    escaping := false
    blocks := addBlocks [] (blocksInAll body)
    depth := outside.depth + includeDepth }
  checkDepth
  runWhole self body
  modify fun m =>
    { m with
      escaping := outside.escaping
      blocks := outside.blocks
      ancestors := outside.ancestors
      depth := outside.depth }

/-- Include the first template of several names that exists. -/
def includeFirst (self : Interpreter) (ignoreMissing : Bool) : List Datum → Bool → Run Unit
  | [], tried => do if tried && !ignoreMissing then throw (.missing "")
  | d :: rest, _ => do
      match d with
      | .str name _ =>
          match ← self.load name with
          | none => includeFirst self ignoreMissing rest true
          | some source =>
              includeTemplate self (← statements source)
      | _ => throw (.invalid "template name was not a string")

/-- The names that an inclusion offers. -/
def includeChoices (d : Datum) : List Datum :=
  match d with
  | .list _ | .series _ _ | .group _ _ | .map _ | .named _ | .record _ _ => d.items?.getD []
  | d => [d]

/-- Run a template for the variables that it sets, with its output. -/
def importModule (self : Interpreter) (name : Expression) :
    Run (String × List (String × Datum)) := do
  let outside ← get
  set { outside with discarding := false, output := "" }
  let locals ← withFrame {} do
    let d ← frozen (← self.evaluate name)
    includeFirst self false (includeChoices d) false
    return ((← get).frames.head?.map Frame.locals).getD []
  let inside ← get
  set { inside with discarding := outside.discarding, output := outside.output }
  return (inside.output, orderedNames locals)

/-- Send a datum through filters. -/
def throughFilters (self : Interpreter) (filters : FilterChain) (d : Datum) : Run Datum :=
  filters.foldlM (fun d (name, args) => do
    let args ← (← evaluateArguments self args []).mapM frozen
    valid (← applyFilter name (← frozen d) args)) d

/-- Output a datum. -/
def emitDatum (d : Datum) : Run Unit := do
  let d ← frozen d
  emit (if (← get).escaping then d.escapedText else d.text)

/-- What a datum says about escaping. -/
def escapingOf : Datum → Except Fault Bool
  | .str "html" _ => .ok true
  | .str "none" _ => .ok false
  | .str _ _ => .error (.invalid "invalid value to autoescape tag")
  | d => .ok (d.same (.bool true))

/-- Run a statement. -/
def executeWith (self : Interpreter) (s : Statement) : Run Unit := do
  match s with
  | .text s => emit s
  | .output e => emitDatum (← self.evaluate e)
  | .forLoop target items condition recursive body otherwise =>
      let d ← self.evaluate items
      let found ← iterate d
      let kept ← match condition with
        | some condition => filterItems self target condition found
        | none => pure found
      runLoop self target recursive kept (condition.isSome || d.isSized) body
      if kept.isEmpty then self.execute otherwise
  | .conditional test yes no =>
      if (← frozen (← self.evaluate test)).isTrue then self.execute yes else self.execute no
  | .scoped bindings body =>
      withFrame {} do
        for (target, e) in bindings do assign self target (← self.evaluate e)
        self.execute body
  | .assign target e => assign self target (← self.evaluate e)
  | .assignBlock target filters body =>
      let d ← capture (self.execute body)
      assign self target (← throughFilters self filters d)
  | .autoescape e body =>
      let escaping ← escapingOf (← self.evaluate e)
      let outside := (← get).escaping
      modify fun m => { m with escaping }
      self.execute body
      modify fun m => { m with escaping := outside }
  | .filterBlock filters body =>
      let d ← capture (self.execute body)
      emitDatum (← throughFilters self filters d)
  | .block name required _ =>
      let m ← get
      unless m.parent.isSome || m.discarding do
        let definitions := ((m.blocks.find? fun entry => entry.1 = name).map Prod.snd).getD []
        if required && definitions.length ≤ 1 then throw (.invalid "required block not found")
        runBlock self name 0
  | .extend parent =>
      let d ← self.evaluate parent
      if (← get).parent.isSome then
        throw (.invalid "tried to extend a second time in a template")
      match d with
      | .str name _ =>
          if (← get).ancestors.contains name then throw (.invalid "cycle in template inheritance")
          let body ← loadStatements self name
          modify fun m => { m with
            ancestors := name :: m.ancestors
            blocks := addBlocks m.blocks (blocksInAll body)
            parent := some body
            discarding := true }
      | _ => throw (.invalid "template name was not a string")
  | .include name ignoreMissing =>
      let d ← frozen (← self.evaluate name)
      includeFirst self ignoreMissing (includeChoices d) false
  | .importAll name target =>
      let (output, locals) ← importModule self name
      assign self target (.record output locals)
  | .importSome name names =>
      let (_, locals) ← importModule self name
      for (imported, renamed) in names do
        store renamed ((Datum.lookupName imported locals).getD .undefined)
  | .define procedure => store procedure.name (← closeProcedure procedure)
  | .callBlock call caller =>
      let closed ← closeProcedure caller
      match call with
      | .call f args => emitDatum (← evaluateCall self f args [("caller", closed)])
      | _ => throw (.malformed "expected call expression")
  | .perform call => let _ ← self.evaluate call

/-! ## Section 8: Expansion -/

/-- The interpreter for a depth of nesting. -/
def interpreter (load : String → Except Fault (Option String)) : Nat → Interpreter
  | 0 => { load, evaluate := fun _ => throw .tooDeep, execute := fun _ => throw .tooDeep }
  | depth + 1 =>
      { load
        evaluate := fun e => evaluateWith (interpreter load depth) e
        execute := fun statements => statements.forM (executeWith (interpreter load depth)) }

/-- How deeply expressions and statements can nest in a run: more than procedures and templates of
the greatest depth make of the greatest nesting. -/
def maxRunDepth : Nat := 1000000

/-- The output of a template over variables, with other templates by name. -/
def expand (load : String → Except Fault (Option String)) (vars : List (String × Datum))
    (source : String) : Except Fault String := do
  let body ← statements source
  let machine : Machine :=
    { frames := [{ base := .vars vars }], blocks := addBlocks [] (blocksInAll body) }
  let (_, after) ← (runWhole (interpreter load maxRunDepth) body).run machine
  return after.output

end Folio.Template
