import Folio.Template.Expression

/-!
# Statements

The parts of a template between which its text stands, and how they are read from tokens.

Main definitions:
- `Template.Statement`, `Template.Procedure`, `Template.Target`
- `Template.statements`: the statements of a template
-/

namespace Folio.Template

/-! ## Section 1: Trees -/

/-- What a value is assigned to. -/
inductive Target where
  | name (s : String)
  | member (e : Expression) (name : String)
  | tuple (items : List Target)

instance : Inhabited Target := ⟨.tuple []⟩

/-- The filters that a block of output goes through, with their arguments. -/
abbrev FilterChain := List (String × List Argument)

mutual
/-- A part of a template. -/
inductive Statement where
  | text (s : String)
  | output (e : Expression)
  | forLoop (target : Target) (items : Expression) (condition : Option Expression)
      (recursive : Bool) (body otherwise : List Statement)
  | conditional (test : Expression) (yes no : List Statement)
  | scoped (bindings : List (Target × Expression)) (body : List Statement)
  | assign (target : Target) (e : Expression)
  | assignBlock (target : Target) (filters : FilterChain) (body : List Statement)
  | autoescape (e : Expression) (body : List Statement)
  | filterBlock (filters : FilterChain) (body : List Statement)
  /-- A part that descendants can replace, or if it is required, must. -/
  | block (name : String) (required : Bool) (body : List Statement)
  | extend (parent : Expression)
  | include (name : Expression) (ignoreMissing : Bool)
  | importAll (name : Expression) (target : Target)
  | importSome (name : Expression) (names : List (String × String))
  | define (procedure : Procedure)
  | callBlock (call : Expression) (caller : Procedure)
  | perform (call : Expression)

/-- A procedure: its name, its parameters with their defaults, its body, and the variables that
these mention. -/
inductive Procedure where
  | mk (name : String) (parameters : List (String × Option Expression)) (body : List Statement)
      (mentioned : List String)
end

instance : Inhabited Statement := ⟨.text ""⟩
instance : Inhabited Procedure := ⟨.mk "" [] [] []⟩

namespace Procedure

/-- The name of a procedure. -/
def name : Procedure → String
  | .mk name _ _ _ => name

/-- The parameters of a procedure with their defaults. -/
def parameters : Procedure → List (String × Option Expression)
  | .mk _ parameters _ _ => parameters

/-- The body of a procedure. -/
def body : Procedure → List Statement
  | .mk _ _ body _ => body

/-- The variables that a procedure mentions. -/
def mentioned : Procedure → List String
  | .mk _ _ _ mentioned => mentioned

end Procedure

/-! ## Section 2: Reading statements -/

open Reader

/-- Whether a token ends a statement tag. -/
def isClose : Token → Bool
  | .closeStatement => true
  | _ => false

/-- Take the end of a statement tag, which must be next. -/
def expectClose : Reader Unit := do unless ← skip isClose do fail "expected end of block"

/-- Names that nothing can be assigned to. -/
def reservedNames : List String :=
  ["true", "True", "false", "False", "none", "None", "loop", "self"]

/-- A name that can be assigned to. -/
def assignableName : Reader String := do
  let name ← expectName
  if reservedNames.contains name then fail "cannot assign to reserved variable name"
  return name

/-- A name, or with `dotted` a member of something, that is assigned to. -/
def simpleTarget (dotted : Bool) : Reader Target := do
  let name ← assignableName
  if !dotted then return .name name
  let step (t : Target) : Reader (Option Target) := do
    unless ← skipSign "." do return none
    let part ← expectName
    match t with
    | .name s => return some (.member (.variable s) part)
    | .member e s => return some (.member (.member e s) part)
    | .tuple _ => fail "unexpected token"
  repeatStep step (.name name)

/-- Whether a token ends a list of targets. -/
def endsTargets : Token → Bool
  | .closeOutput | .closeStatement => true
  | t => t.isSign ")" || t.isWord "in"

/-- One target, or several with commas between them. -/
def targets : Nat → Reader Target
  | 0 => fail "template exceeds maximum recursion limits"
  | depth + 1 => do
      let one : Reader Target := do
        if ← skipSign "(" then
          let t ← targets depth
          expectSign ")"
          return t
        simpleTarget false
      let step (acc : Bool × Bool × List Target) : Reader (Option (Bool × Bool × List Target)) := do
        let (done, tuple, items) := acc
        if done then return none
        if ← nextIs endsTargets then return some (true, tuple, items)
        let t ← one
        if ← skipSign "," then return some (false, true, t :: items)
        return some (true, tuple, t :: items)
      let (_, tuple, items) ← repeatStep step (false, false, [])
      match tuple, items with
      | false, [t] => return t
      | _, items => return .tuple items.reverse

/-- What reading a statement needs of the statements and expressions inside it. -/
structure Inner where
  /-- An expression. -/
  expression : Reader Expression
  /-- An expression that is no choice. -/
  alternatives : Reader Expression
  /-- The statement after an opening tag delimiter. -/
  statement : Reader Statement
  /-- How deeply targets can nest. -/
  depth : Nat

/-- The text, output and statements up to a tag that begins with one of the given words, which is
left ahead. -/
def body (inner : Inner) (stops : List String) : Reader (List Statement) := do
  let step (acc : Bool × List Statement) : Reader (Option (Bool × List Statement)) := do
    if acc.1 then return none
    match ← next? with
    | none => return some (true, acc.2)
    | some (.text s) => return some (false, .text s :: acc.2)
    | some .openOutput =>
        let e ← inner.expression
        match ← next? with
        | some .closeOutput => return some (false, .output e :: acc.2)
        | _ => fail "expected end of variable block"
    | some .openStatement =>
        match ← peek? with
        | none => fail "unexpected end of input"
        | some t =>
            if stops.any fun word => t.isWord word then return some (true, acc.2)
            let s ← inner.statement
            expectClose
            return some (false, s :: acc.2)
    | some _ => fail "unexpected token"
  let (_, statements) ← repeatStep step (false, [])
  return statements.reverse

/-- The end of the opening tag, a body, and the word of the closing tag. -/
def bodyUntil (inner : Inner) (stop : String) : Reader (List Statement) := do
  expectClose
  let statements ← body inner [stop]
  expectWord stop
  return statements

/-- A loop after its word. -/
def forStatement (inner : Inner) : Reader Statement := do
  let target ← targets inner.depth
  expectWord "in"
  let items ← inner.alternatives
  let condition ← if ← skipWord "if" then some <$> inner.expression else pure none
  let recursive ← skipWord "recursive"
  expectClose
  let statements ← body inner ["endfor", "else"]
  let otherwise ← if ← skipWord "else" then
      expectClose
      body inner ["endfor"]
    else pure []
  expectWord "endfor"
  return .forLoop target items condition recursive statements otherwise

/-- The conditions and bodies of a conditional after its word, the first last. -/
def branches (inner : Inner) : Reader (List (Expression × List Statement) × List Statement) := do
  let branch : Reader (Expression × List Statement) := do
    let test ← inner.alternatives
    expectClose
    return (test, ← body inner ["endif", "else", "elif"])
  let step (acc : List (Expression × List Statement)) :
      Reader (Option (List (Expression × List Statement))) := do
    unless ← skipWord "elif" do return none
    return some ((← branch) :: acc)
  let taken ← repeatStep step [← branch]
  let otherwise ← if ← skipWord "else" then
      expectClose
      body inner ["endif"]
    else pure []
  expectWord "endif"
  return (taken, otherwise)

/-- A conditional after its word. -/
def ifStatement (inner : Inner) : Reader Statement := do
  let (taken, otherwise) ← branches inner
  match taken.foldl (fun no (test, yes) => [Statement.conditional test yes no]) otherwise with
  | [s] => return s
  | _ => fail "unexpected end of input"

/-- A statement with variables of its own, after its word. -/
def withStatement (inner : Inner) : Reader Statement := do
  let step (acc : Bool × List (Target × Expression)) :
      Reader (Option (Bool × List (Target × Expression))) := do
    if ← nextIs isClose then return none
    unless acc.2.isEmpty do expectSign ","
    let target ← if ← skipSign "(" then
        let t ← targets inner.depth
        expectSign ")"
        pure t
      else simpleTarget false
    expectSign "="
    return some (false, (target, ← inner.expression) :: acc.2)
  let (_, bindings) ← repeatStep step (false, [])
  return .scoped bindings.reverse (← bodyUntil inner "endwith")

/-- The filters of a block, with bars between them. -/
def filterChain (inner : Inner) : Reader FilterChain := do
  let one : Reader (String × List Argument) := do
    let name ← expectName
    let args ← optionalArguments fun level =>
      if level = 1 then inner.alternatives else inner.expression
    return (name, args)
  let step (acc : FilterChain) : Reader (Option FilterChain) := do
    unless ← skipSign "|" do return none
    return some ((← one) :: acc)
  return (← repeatStep step [← one]).reverse

/-- What an assignment assigns to: one target, or several with commas between them. Whether it is a
single target without parentheses comes with it. -/
def assignmentTarget (inner : Inner) : Reader (Target × Bool) := do
  let one : Reader (Target × Bool) := do
    if ← skipSign "(" then
      let t ← targets inner.depth
      expectSign ")"
      return (t, false)
    return (← simpleTarget true, true)
  let step (acc : Bool × List Target) : Reader (Option (Bool × List Target)) := do
    if acc.1 then return none
    unless ← skipSign "," do return some (true, acc.2)
    if ← nextIs fun t => t.isSign "=" then return some (true, acc.2)
    return some (false, (← one).1 :: acc.2)
  let (first, plain) ← one
  if ← nextIs fun t => t.isSign "," then
    let (_, items) ← repeatStep step (false, [first])
    return (.tuple items.reverse, false)
  return (first, plain)

/-- An expression, or several with commas between them as a list. -/
def expressions (inner : Inner) : Reader Expression := do
  let step (acc : Bool × List Expression) : Reader (Option (Bool × List Expression)) := do
    if acc.1 then return none
    unless ← skipSign "," do return some (true, acc.2)
    if ← nextIs isClose then return some (true, acc.2)
    return some (false, (← inner.expression) :: acc.2)
  let first ← inner.expression
  if ← nextIs fun t => t.isSign "," then
    let (_, items) ← repeatStep step (false, [first])
    return .list items.reverse
  return first

/-- An assignment after its word. -/
def setStatement (inner : Inner) : Reader Statement := do
  let (target, plain) ← assignmentTarget inner
  let block ← nextIs fun t => isClose t || t.isSign "|"
  if plain && block then
    let filters ← if ← skipSign "|" then filterChain inner else pure []
    return .assignBlock target filters (← bodyUntil inner "endset")
  expectSign "="
  return .assign target (← expressions inner)

/-- Whether a statement is text of white space alone. -/
def Statement.isBlank : Statement → Bool
  | .text s => s.toList.all Text.isSpace
  | _ => false

/-- A block after its word. The name may be given again at its end. A required block holds only
white space and comments. -/
def blockStatement (inner : Inner) : Reader Statement := do
  if (← get).inProcedure then fail "block tags in macros are not allowed"
  let name ← expectName
  if (← get).blocks.contains name then fail "block defined twice"
  modify fun r => { r with blocks := name :: r.blocks }
  let _ ← skipWord "scoped"
  let required ← skipWord "required"
  let statements ← bodyUntil inner "endblock"
  if required && !statements.all Statement.isBlank then
    fail "required blocks can only contain comments or whitespace"
  match ← peek? with
  | some (.name again) =>
      let _ ← next?
      if again ≠ name then fail "mismatching name on block end"
      return .block name required statements
  | _ => return .block name required statements

/-- Words about the context of an inclusion, which change nothing. -/
def skipContext : Reader Unit := do
  if ← skip fun t => t.isWord "with" || t.isWord "without" then expectWord "context"

/-- An inclusion after its word. -/
def includeStatement (inner : Inner) : Reader Statement := do
  let name ← inner.expression
  let ignoreMissing ← skipWord "ignore"
  if ignoreMissing then expectWord "missing"
  skipContext
  return .include name ignoreMissing

/-- The import of a template under one name, after its word. -/
def importStatement (inner : Inner) : Reader Statement := do
  let name ← inner.expression
  expectWord "as"
  let target ← simpleTarget false
  skipContext
  return .importAll name target

/-- The import of names from a template, after its word. -/
def fromStatement (inner : Inner) : Reader Statement := do
  let name ← inner.expression
  expectWord "import"
  let step (acc : List (String × String)) : Reader (Option (List (String × String))) := do
    if ← nextIs isClose then return none
    unless acc.isEmpty do
      expectSign ","
      if ← nextIs isClose then return none
    if ← nextIs fun t => !acc.isEmpty && (t.isWord "with" || t.isWord "without") then return none
    let imported ← assignableName
    let renamed ← if ← skipWord "as" then assignableName else pure imported
    return some ((imported, renamed) :: acc)
  let names ← repeatStep step []
  skipContext
  return .importSome name names.reverse

/-- Parameters after an opening parenthesis. After one with a default, all have one. -/
def parameters (inner : Inner) : Reader (List (String × Option Expression)) := do
  let step (acc : Bool × List (String × Option Expression)) :
      Reader (Option (Bool × List (String × Option Expression))) := do
    if acc.1 then return none
    if ← skipSign ")" then return some (true, acc.2)
    unless acc.2.isEmpty do
      expectSign ","
      if ← skipSign ")" then return some (true, acc.2)
    let name ← assignableName
    if ← skipSign "=" then
      return some (false, (name, some (← inner.expression)) :: acc.2)
    if acc.2.any fun entry => entry.2.isSome then fail "expected ="
    return some (false, (name, none) :: acc.2)
  let (_, names) ← repeatStep step (false, [])
  return names.reverse

/-- The body of a procedure up to its closing word. -/
def procedureBody (inner : Inner) (stop : String) : Reader (List Statement) := do
  let outside := (← get).inProcedure
  modify fun r => { r with inProcedure := true }
  let statements ← bodyUntil inner stop
  modify fun r => { r with inProcedure := outside }
  return statements

/-- What a reader gives, with the variables that it mentions. -/
def withMentioned {α : Type} (read : Reader α) : Reader (α × List String) := do
  let outside := (← get).mentioned
  modify fun r => { r with mentioned := [] }
  let a ← read
  let inside := (← get).mentioned
  modify fun r => { r with mentioned := outside ++ inside.filter fun name => !outside.contains name }
  return (a, inside)

/-- The definition of a procedure after its word. -/
def procedureStatement (inner : Inner) : Reader Statement := do
  let name ← expectName
  expectSign "("
  let ((names, statements), mentioned) ← withMentioned do
    let names ← parameters inner
    return (names, ← procedureBody inner "endmacro")
  return .define (.mk name names statements mentioned)

/-- An expression that is a call. -/
def callExpression (inner : Inner) : Reader Expression := do
  match ← inner.expression with
  | .call f args => return .call f args
  | _ => fail "expected call expression"

/-- A call with a body, after its word. What the body calls its own caller is not the caller
outside. -/
def callStatement (inner : Inner) : Reader Statement := do
  let (names, fromNames) ← withMentioned do
    if ← skipSign "(" then parameters inner else return []
  let call ← callExpression inner
  let outside := (← get).mentioned
  let (statements, fromBody) ← withMentioned (procedureBody inner "endcall")
  unless outside.contains "caller" do
    modify fun r => { r with mentioned := r.mentioned.filter (· ≠ "caller") }
  return .callBlock call (.mk "caller" names statements (fromNames ++ fromBody))

/-- A statement after the opening delimiter of its tag, nested at most `depth` deep. -/
def statement : Nat → Reader Statement
  | 0 => fail "template exceeds maximum recursion limits"
  | depth + 1 => do
      let inner : Inner :=
        { expression := expression depth 0, alternatives := expression depth 1,
          statement := statement depth, depth }
      match ← expectName with
      | "for" => forStatement inner
      | "if" => ifStatement inner
      | "with" => withStatement inner
      | "set" => setStatement inner
      | "autoescape" => return .autoescape (← inner.expression) (← bodyUntil inner "endautoescape")
      | "filter" => return .filterBlock (← filterChain inner) (← bodyUntil inner "endfilter")
      | "block" => blockStatement inner
      | "extends" => return .extend (← inner.expression)
      | "include" => includeStatement inner
      | "import" => importStatement inner
      | "from" => fromStatement inner
      | "macro" => procedureStatement inner
      | "call" => callStatement inner
      | "do" => return .perform (← callExpression inner)
      | _ => fail "unknown statement"

/-- The statements of a template. -/
def statements (source : String) : Except Fault (List Statement) := do
  let ahead ← tokens source
  let inner : Inner :=
    { expression := expression maxNesting 0, alternatives := expression maxNesting 1,
      statement := statement maxNesting, depth := maxNesting }
  let (found, _) ← (body inner []).run { ahead }
  return found

end Folio.Template
