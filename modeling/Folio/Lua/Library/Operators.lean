import Folio.Lua.Library.Arguments

/-!
# Operators on strings

A string that is a number can be an operand of arithmetic: the metatable of strings has functions for
its operators. If an operand is no number, the metatable of the second one is asked.

Main definitions:
- `Lua.stringOperators`: the functions by their names in the metatable
-/

namespace Folio.Lua

open Effect

/-- Leave an operation to the metatable of the second operand, which is no string, or fail. -/
def delegateOperator (event : Event) (a b : Val) : Effect := fun m =>
  let handler : Val := match b with
    | .str _ => .nil
    | b => m.handler b event
  match handler with
  | .nil =>
      raise (Bytes.ofText ("attempt to " ++ event.name ++ " a '" ++ a.typeName ++ "' with a '"
        ++ b.typeName ++ "'")) m
  | f => callValue f [a, b] (fun vs => finish [firstOf vs]) m

/-- The function for an event, given what it does with numbers. -/
def stringOperator (event : Event) (f : Number → Number → (Number → Effect) → Effect) :
    String × Native :=
  ("__" ++ event.name, fun _ _ args =>
    let a := firstOf args
    let b := firstOf (args.drop 1)
    match a.toNumber?, b.toNumber? with
    | some m, some n => f m n fun result => finish [Val.ofNumber result]
    | _, _ => delegateOperator event a b)

/-- The functions for the operators of arithmetic. -/
def stringOperators : List (String × Native) :=
  stringOperator .minus (fun _ n next => next n.negated)
    :: ([.add, .sub, .mul, .mod, .pow, .div, .floorDiv] : List ArithOp).map fun op =>
      stringOperator (.arith op) (arithmeticOf op)

end Folio.Lua
