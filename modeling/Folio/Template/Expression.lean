import Folio.Template.Token

/-!
# Expressions

The expressions in tags, and how they are read from tokens.

From loosest to tightest: a choice `a if b else c`, `or`, `and`, `not`, comparisons and `in`, `+`
and `-`, `~`, `*` `/` `//` `%`, `**`, and a unary minus, which binds tighter than what follows its
operand: members, calls, filters and tests. Comparisons in a row hold if each of them does. Texts in
a row are one text.

Main definitions:
- `Template.Expression`, `Template.Argument`
- `Template.Reader`: reading from tokens
- `Template.expression`: reading an expression
-/

namespace Folio.Template

/-! ## Section 1: Trees -/

/-- An operation on two operands. -/
inductive BinaryOp where
  | or | and
  | eq | ne | lt | le | gt | ge | within
  | add | sub | concat | mul | div | floorDiv | rem | pow
deriving DecidableEq, Inhabited

/-- A comparison. -/
inductive Comparison where
  | op (op : BinaryOp)
  | notWithin
deriving DecidableEq, Inhabited

/-- An operation on one operand. -/
inductive UnaryOp where
  | not | neg
deriving DecidableEq, Inhabited

mutual
/-- An expression. -/
inductive Expression where
  | variable (name : String)
  | constant (d : Datum)
  | list (items : List Expression)
  | map (entries : List (Expression × Expression))
  | unary (op : UnaryOp) (e : Expression)
  | binary (op : BinaryOp) (a b : Expression)
  /-- Comparisons in a row, each with the operand before it. -/
  | compared (first : Expression) (links : List (Comparison × Expression))
  /-- One of two expressions; without the second, undefined stands for it. -/
  | choice (test yes : Expression) (no : Option Expression)
  | filter (e : Expression) (name : String) (args : List Argument)
  | test (e : Expression) (name : String) (args : List Argument)
  | member (e : Expression) (name : String)
  | item (e key : Expression)
  | slice (e : Expression) (start stop step : Option Expression)
  | call (f : Expression) (args : List Argument)

/-- An argument of a call. -/
inductive Argument where
  | positional (e : Expression)
  | named (name : String) (e : Expression)
  /-- Each item of a list as an argument. -/
  | spread (e : Expression)
  /-- Each entry of a map as a named argument. -/
  | spreadNamed (e : Expression)
end

instance : Inhabited Expression := ⟨.constant .undefined⟩
instance : Inhabited Argument := ⟨.positional default⟩

/-! ## Section 2: Reading tokens -/

/-- What a reader knows: the tokens ahead, whether it is inside a procedure, the blocks read so far,
and the variables mentioned so far. -/
structure Reading where
  ahead : List Token
  inProcedure : Bool := false
  blocks : List String := []
  mentioned : List String := []

/-- Reading from tokens. -/
abbrev Reader (α : Type) := StateT Reading (Except Fault) α

namespace Reader

/-- Give up. -/
def fail {α : Type} (detail : String) : Reader α := throw (.malformed detail)

/-- The next token. -/
def peek? : Reader (Option Token) := do return (← get).ahead.head?

/-- Take the next token. -/
def next? : Reader (Option Token) := do
  let r ← get
  match r.ahead with
  | [] => return none
  | t :: rest => set { r with ahead := rest }; return some t

/-- Whether the next token satisfies a condition. -/
def nextIs (p : Token → Bool) : Reader Bool := do return (← peek?).any p

/-- Take the next token if it satisfies a condition. -/
def skip (p : Token → Bool) : Reader Bool := do
  if ← nextIs p then
    let _ ← next?
    return true
  return false

/-- Take a sign if it is next. -/
def skipSign (s : String) : Reader Bool := skip (Token.isSign s)

/-- Take a word if it is next. -/
def skipWord (w : String) : Reader Bool := skip (Token.isWord w)

/-- Take a sign that must be next. -/
def expectSign (s : String) : Reader Unit := do unless ← skipSign s do fail ("expected " ++ s)

/-- Take a word that must be next. -/
def expectWord (w : String) : Reader Unit := do unless ← skipWord w do fail ("expected " ++ w)

/-- Take a name that must be next. -/
def expectName : Reader String := do
  match ← next? with
  | some (.name s) => return s
  | _ => fail "expected identifier"

/-- Repeat a step while it gives something. A step that gives something takes a token, so the tokens
ahead bound the number of steps. -/
def iterate {α : Type} (step : α → Reader (Option α)) : Nat → α → Reader α
  | 0, a => return a
  | n + 1, a => do
      match ← step a with
      | none => return a
      | some b => iterate step n b

/-- Repeat a step while it gives something. -/
def repeatStep {α : Type} (step : α → Reader (Option α)) (a : α) : Reader α := do
  iterate step ((← get).ahead.length + 1) a

/-- Items with commas between them, up to a closing sign that may follow a comma. -/
def separated {α : Type} (closing : String) (item : Reader α) : Reader (List α) := do
  let step (acc : Bool × List α) : Reader (Option (Bool × List α)) := do
    if acc.1 then return none
    if ← skipSign closing then return some (true, acc.2)
    unless acc.2.isEmpty do
      expectSign ","
      if ← skipSign closing then return some (true, acc.2)
    return some (false, (← item) :: acc.2)
  let (_, items) ← repeatStep step (false, [])
  return items.reverse

/-- Operands with operators between them that group to the left. -/
def leftGrouped (operand : Reader Expression) (operator? : Token → Option BinaryOp) :
    Reader Expression := do
  let step (left : Expression) : Reader (Option Expression) := do
    match (← peek?).bind operator? with
    | none => return none
    | some op =>
        let _ ← next?
        return some (.binary op left (← operand))
  repeatStep step (← operand)

end Reader

/-! ## Section 3: Reading expressions -/

open Reader

/-- The operator that a sign stands for. -/
def signOperator? (table : List (String × BinaryOp)) : Token → Option BinaryOp
  | .sign s => (table.find? fun entry => entry.1 = s).map Prod.snd
  | _ => none

/-- The operator that a word stands for. -/
def wordOperator? (word : String) (op : BinaryOp) : Token → Option BinaryOp
  | .name s => if s = word then some op else none
  | _ => none

/-- The arguments of a call, in parentheses. Named ones stand after the others. -/
def arguments (inner : Nat → Reader Expression) : Reader (List Argument) := do
  expectSign "("
  let step (acc : Bool × Bool × List Argument) : Reader (Option (Bool × Bool × List Argument)) := do
    let (done, named, args) := acc
    if done then return none
    if ← skipSign ")" then return some (true, named, args)
    unless args.isEmpty do
      expectSign ","
      if ← skipSign ")" then return some (true, named, args)
    if ← skipSign "**" then return some (false, true, .spreadNamed (← inner 0) :: args)
    if ← skipSign "*" then return some (false, named, .spread (← inner 0) :: args)
    let e ← inner 0
    match e with
    | .variable name =>
        if ← skipSign "=" then return some (false, true, .named name (← inner 1) :: args)
        if named then fail "non-keyword argument after keyword argument"
        return some (false, named, .positional e :: args)
    | _ =>
        if named then fail "non-keyword argument after keyword argument"
        return some (false, named, .positional e :: args)
  let (_, _, args) ← repeatStep step (false, false, [])
  return args.reverse

/-- A name, a literal, or something in brackets. -/
def primary (inner : Nat → Reader Expression) : Reader Expression := do
  match ← next? with
  | some (.name s) =>
      if s = "true" || s = "True" then return .constant (.bool true)
      if s = "false" || s = "False" then return .constant (.bool false)
      if s = "none" || s = "None" then return .constant .nothing
      modify fun r => { r with mentioned := if r.mentioned.contains s then r.mentioned
        else s :: r.mentioned }
      return .variable s
  | some (.str s) =>
      let more (acc : String) : Reader (Option String) := do
        match ← peek? with
        | some (.str next) =>
            let _ ← next?
            return some (acc ++ next)
        | _ => return none
      return .constant (.ofString (← repeatStep more s))
  | some (.int n) => return .constant (.int n)
  | some (.float x) => return .constant (.float x)
  | some (.sign "(") =>
      if ← skipSign ")" then return .list []
      let e ← inner 0
      if ← skipSign "," then
        return .list (e :: (← separated ")" (inner 0)))
      expectSign ")"
      return e
  | some (.sign "[") => return .list (← separated "]" (inner 0))
  | some (.sign "\x7b") =>
      let entry : Reader (Expression × Expression) := do
        let k ← inner 0
        expectSign ":"
        return (k, ← inner 0)
      return .map (← separated "\x7d" entry)
  | some _ => fail "unexpected token"
  | none => fail "unexpected end of input"

/-- What stands between square brackets after an expression: a key or a slice. -/
def subscript (inner : Nat → Reader Expression) (e : Expression) : Reader Expression := do
  let isColon : Token → Bool := Token.isSign ":"
  let isClose : Token → Bool := Token.isSign "]"
  let start ← if ← nextIs isColon then pure none else some <$> inner 0
  if ← skipSign ":" then
    let stop ← if ← nextIs (fun t => isColon t || isClose t) then pure none else some <$> inner 0
    let step ←
      if ← skipSign ":" then
        if ← nextIs isClose then pure none else some <$> inner 0
      else pure none
    expectSign "]"
    return .slice e start stop step
  expectSign "]"
  match start with
  | some key => return .item e key
  | none => fail "empty subscript"

/-- Members, items and calls after an expression. -/
def postfixed (inner : Nat → Reader Expression) (e : Expression) : Reader Expression := do
  let step (e : Expression) : Reader (Option Expression) := do
    if ← skipSign "." then
      match ← next? with
      | some (.name s) => return some (.member e s)
      | some (.int n) => return some (.item e (.constant (.int n)))
      | _ => fail "expected identifier"
    if ← skipSign "[" then return some (← subscript inner e)
    if ← nextIs (Token.isSign "(") then return some (.call e (← arguments inner))
    return none
  repeatStep step e

/-- Minus signs before a primary expression. -/
def signed (inner : Nat → Reader Expression) : Reader Expression := do
  let step (count : Nat) : Reader (Option Nat) := do
    if ← skipSign "-" then return some (count + 1)
    return none
  let count ← repeatStep step 0
  return count.repeat (.unary .neg) (← primary inner)

/-- Whether a token can begin the argument of a test that has no parentheses. -/
def beginsTestArgument : Token → Bool
  | .name s => !(["and", "or", "else", "is"].contains s)
  | .str _ | .int _ | .float _ => true
  | .sign s => ["+", "-", "[", "\x7b"].contains s
  | _ => false

/-- Arguments in parentheses, if they follow. -/
def optionalArguments (inner : Nat → Reader Expression) : Reader (List Argument) := do
  if ← nextIs (Token.isSign "(") then arguments inner else return []

/-- Filters and tests after an expression. -/
def filtered (inner : Nat → Reader Expression) (e : Expression) : Reader Expression := do
  let step (e : Expression) : Reader (Option Expression) := do
    if ← skipSign "|" then
      let name ← expectName
      return some (.filter e name (← optionalArguments inner))
    if ← skipWord "is" then
      let negated ← skipWord "not"
      let name ← expectName
      let args ←
        if ← nextIs (Token.isSign "(") then arguments inner
        else if ← nextIs beginsTestArgument then
          pure [.positional (← postfixed inner (← signed inner))]
        else pure []
      let tested := Expression.test e name args
      return some (if negated then .unary .not tested else tested)
    return none
  repeatStep step e

/-- An operand of the tightest operator. -/
def operand (inner : Nat → Reader Expression) : Reader Expression := do
  filtered inner (← postfixed inner (← signed inner))

/-- Sums, and what binds tighter. -/
def sum (inner : Nat → Reader Expression) : Reader Expression :=
  let powers := leftGrouped (operand inner) (signOperator? [("**", .pow)])
  let products := leftGrouped powers
    (signOperator? [("*", .mul), ("/", .div), ("//", .floorDiv), ("%", .rem)])
  let texts := leftGrouped products (signOperator? [("~", .concat)])
  leftGrouped texts (signOperator? [("+", .add), ("-", .sub)])

/-- The comparison that a sign stands for. -/
def comparison? : Token → Option BinaryOp :=
  signOperator? [("==", .eq), ("!=", .ne), ("<", .lt), ("<=", .le), (">", .gt), (">=", .ge)]

/-- The comparison that stands next, which is taken. -/
def comparisonNext? : Reader (Option Comparison) := do
  match (← peek?).bind comparison? with
  | some op =>
      let _ ← next?
      return some (.op op)
  | none =>
      if ← skipWord "in" then return some (.op .within)
      if ← skipWord "not" then
        expectWord "in"
        return some .notWithin
      return none

/-- Comparisons in a row. -/
def comparison (inner : Nat → Reader Expression) : Reader Expression := do
  let step (links : List (Comparison × Expression)) :
      Reader (Option (List (Comparison × Expression))) := do
    let some op ← comparisonNext? | return none
    return some ((op, ← sum inner) :: links)
  let first ← sum inner
  match ← repeatStep step [] with
  | [] => return first
  | links => return .compared first links.reverse

/-- Negations before a comparison. -/
def negation (inner : Nat → Reader Expression) : Reader Expression := do
  let step (count : Nat) : Reader (Option Nat) := do
    if ← skipWord "not" then return some (count + 1)
    return none
  let count ← repeatStep step 0
  return count.repeat (.unary .not) (← comparison inner)

/-- Alternatives: every expression but a choice. -/
def alternatives (inner : Nat → Reader Expression) : Reader Expression :=
  leftGrouped (leftGrouped (negation inner) (wordOperator? "and" .and)) (wordOperator? "or" .or)

/-- How deeply expressions and statements can nest. -/
def maxNesting : Nat := 150

/-- An expression, nested at most `depth` deep. With `level` 1, the outermost is no choice. -/
def expression : Nat → Nat → Reader Expression
  | 0, _ => fail "template exceeds maximum recursion limits"
  | depth + 1, level => do
      let inner := expression depth
      let e ← alternatives inner
      if level = 1 then return e
      let step (e : Expression) : Reader (Option Expression) := do
        unless ← skipWord "if" do return none
        let test ← alternatives inner
        let no ← if ← skipWord "else" then some <$> inner 0 else pure none
        return some (.choice test e no)
      repeatStep step e

end Folio.Template
