import Folio.Lua.Library.Strings

/-!
# The library of tables

Functions that treat a table as a list. They read and write fields as programs do, so that metatables
count.

Main definitions:
- `Lua.tableFunctions`: the functions
- `Lua.Sorting`: sorting a list in place
-/

namespace Folio.Lua

open Effect

/-! ## Section 1: Items -/

/-- An item of a list. -/
def getItem (t : Val) (i : Int) (next : Val → Effect) : Effect :=
  index t (.int (Int64.ofInt i)) next

/-- Set an item of a list. -/
def setItem (t : Val) (i : Int) (v : Val) (next : Effect) : Effect :=
  setIndex t (.int (Int64.ofInt i)) v next

/-- The length of a list. -/
def listLength (t : Val) (next : Int → Effect) : Effect :=
  lengthOf t fun v =>
    match v.toInt? with
    | some n => next n.toInt
    | none => raise (Bytes.ofText "object length is not an integer")

/-- A number of items from a place on. The items so far are in reverse. -/
def getItems (t : Val) : Nat → Int → List Val → (List Val → Effect) → Effect
  | 0, _, items, next => next items.reverse
  | count + 1, i, items, next =>
      getItem t i fun v => getItems t count (i + 1) (v :: items) next

/-- Move a number of items, one after the other, by `step` from item to item. -/
def moveItems (source target : Val) (step : Int) : Nat → Int → Int → Effect → Effect
  | 0, _, _, next => next
  | count + 1, i, j, next =>
      getItem source i fun v =>
        setItem target j v (moveItems source target step count (i + step) (j + step) next)

/-- What a list must support that is read, or changed, and whose length counts. -/
def changedList : List Event := [.index, .newIndex, .length]

/-! ## Section 2: Insertion and removal -/

/-- Insert an item, at the end or at a place. -/
def tableInsert : String × Native :=
  memoryNative "insert" (fun c m => do return (← c.list m 1 changedList, c)) fun (t, c) =>
    listLength t fun n =>
      match c.args.length with
      | 2 => setItem t (n + 1) (c.arg 2) (finish [])
      | 3 =>
          match c.int 2 with
          | .error fault => c.raise fault
          | .ok place =>
              let place := place.toInt
              if place < 1 || place > n + 1 then
                c.raiseArgument 2 (Bytes.ofText "position out of bounds")
              else
                moveItems t t (-1) (n + 1 - place).toNat n (n + 1) <|
                  setItem t place (c.arg 3) (finish [])
      | _ => raise (Bytes.ofText "wrong number of arguments to 'insert'")

/-- Remove an item, at the end or at a place. -/
def tableRemove : String × Native :=
  memoryNative "remove" (fun c m => do return (← c.list m 1 changedList, c)) fun (t, c) =>
    listLength t fun n =>
      match c.optInt 2 n with
      | .error fault => c.raise fault
      | .ok place =>
          if place ≠ n && !(1 ≤ place && place ≤ n + 1) then
            c.raiseArgument 2 (Bytes.ofText "position out of bounds")
          else
            getItem t place fun v =>
              if place < n then
                moveItems t t 1 (n - place).toNat (place + 1) place
                  (setItem t n .nil (finish [v]))
              else setItem t place .nil (finish [v])

/-! ## Section 3: Lists as values and texts -/

/-- The items of a list put together with a separator. The parts so far are in reverse. -/
def concatItems (t : Val) (separator : Bytes) : Nat → Int → List Bytes → Effect
  | 0, _, parts => fun m =>
      let s := Bytes.join separator parts.reverse
      finish [.str s] (m.use s.size)
  | count + 1, i, parts =>
      getItem t i fun v =>
        match v.toStr? with
        | none =>
            raise (Bytes.ofText ("invalid value (at index " ++ toString i
              ++ ") in table for 'concat'"))
        | some s => concatItems t separator count (i + 1) (s :: parts)

/-- Put the items of a list together. -/
def tableConcat : String × Native :=
  memoryNative "concat" (fun c m => do return (← c.list m 1 [.index, .length], c)) fun (t, c) =>
    listLength t fun n =>
      let read : Except CallFault (Bytes × Int × Int) := do
        return (← c.optional 2 ByteArray.empty c.str, ← c.optInt 3 1, ← c.optInt 4 n)
      match read with
      | .error fault => c.raise fault
      | .ok (separator, first, last) => concatItems t separator (last - first + 1).toNat first []

/-- The items of a list as values. -/
def tableUnpack : String × Native :=
  native "unpack" (fun c => do return (← c.optInt 2 1, c)) fun (first, c) =>
    let t := c.arg 1
    let go (last : Int) : Effect :=
      let count := (last - first + 1).toNat
      if count ≥ maxResults then raise (Bytes.ofText "too many results to unpack")
      else getItems t count first [] finish
    if c.lacks 3 then listLength t go
    else
      match c.int 3 with
      | .ok last => go last.toInt
      | .error fault => c.raise fault

/-- Values as the items of a list, with their number. -/
def tablePack : String × Native :=
  native "pack" .ok fun c =>
    let t := (Table.ofItems c.args.toArray).setName "n" (.ofNat c.args.length)
    make (·.newTable t) fun v => finish [v]

/-- Move items from one list to another one, or inside a list. -/
def tableMove : String × Native :=
  memoryNative "move" (fun c m => do
    let first := (← c.int 2).toInt
    let last := (← c.int 3).toInt
    let place := (← c.int 4).toInt
    let target := if c.lacks 5 then 1 else 5
    return (← c.list m 1 [.index], ← c.list m target [.newIndex], first, last, place, c))
    fun (source, target, first, last, place, c) =>
      let count := (last - first + 1).toNat
      if count = 0 then finish [target]
      else if first ≤ 0 && last ≥ Nat.pow 2 63 - 1 + first then
        c.raiseArgument 3 (Bytes.ofText "too many elements to move")
      else if place > (Nat.pow 2 63) - count then
        c.raiseArgument 4 (Bytes.ofText "destination wrap around")
      else
        let ahead := moveItems source target 1 count first place (finish [target])
        let back := moveItems source target (-1) count last (place + count - 1) (finish [target])
        if place > last || place ≤ first then ahead
        else if c.lacks 5 then back
        else equal source target fun isSame => if isSame then back else ahead

/-! ## Section 4: Sorting

An interval is parted by the middle one of three items, and its shorter part is sorted first. -/

/-- A list that is sorted. -/
structure Sorting where
  list : Val
  /-- The function that compares items, or `nil`. -/
  order : Val

namespace Sorting

/-- Fail because the order is none. -/
def raiseOrder : Effect := raise (Bytes.ofText "invalid order function for sorting")

/-- Whether an item goes before another one. -/
def before (s : Sorting) (a b : Val) (next : Bool → Effect) : Effect :=
  match s.order with
  | .nil => less a b next
  | f => callValue f [a, b] fun vs => next (firstOf vs).isTrue

/-- Set two items. -/
def setTwo (s : Sorting) (i j : Int) (a b : Val) (next : Effect) : Effect :=
  setItem s.list i a (setItem s.list j b next)

/-- Exchange two items if the later one goes before the earlier one. -/
def arrange (s : Sorting) (low high : Int) (next : Bool → Effect) : Effect :=
  getItem s.list low fun a => getItem s.list high fun b =>
    s.before b a fun swap =>
      if swap then s.setTwo low high b a (next true) else next false

/-- The first place after `i` whose item does not go before the pivot. -/
def skipSmaller (s : Sorting) (pivot : Val) (high : Int) :
    Nat → Int → (Int → Val → Effect) → Effect
  | 0, _, _ => raiseOrder
  | fuel + 1, i, next =>
      getItem s.list (i + 1) fun v =>
        s.before v pivot fun smaller =>
          if !smaller then next (i + 1) v
          else if i + 1 = high - 1 then raiseOrder
          else s.skipSmaller pivot high fuel (i + 1) next

/-- The last place before `j` whose item does not go after the pivot. -/
def skipGreater (s : Sorting) (pivot : Val) (i : Int) :
    Nat → Int → (Int → Val → Effect) → Effect
  | 0, _, _ => raiseOrder
  | fuel + 1, j, next =>
      getItem s.list (j - 1) fun v =>
        s.before pivot v fun greater =>
          if !greater then next (j - 1) v
          else if j - 1 < i then raiseOrder
          else s.skipGreater pivot i fuel (j - 1) next

/-- Part an interval by a pivot, which is its last item but one; the place of the pivot then. -/
def part (s : Sorting) (pivot : Val) (high : Int) (size : Nat) :
    Nat → Int → Int → (Int → Effect) → Effect
  | 0, _, _, _ => raiseOrder
  | fuel + 1, i, j, next =>
      s.skipSmaller pivot high (size + 2) i fun i a =>
        s.skipGreater pivot i (size + 2) j fun j b =>
          if j < i then s.setTwo (high - 1) i a pivot (next i)
          else s.setTwo i j b a (s.part pivot high size fuel i j next)

/-- Sort an interval. -/
def interval (s : Sorting) : Nat → Int → Int → Effect → Effect
  | 0, _, _, next => next
  | fuel + 1, low, high, next =>
      if low ≥ high then next
      else
        s.arrange low high fun _ =>
          if high - low = 1 then next
          else
            let middle := (low + high) / 2
            let parted (_ : Unit) : Effect :=
              if high - low = 2 then next
              else
                getItem s.list middle fun pivot => getItem s.list (high - 1) fun other =>
                  s.setTwo middle (high - 1) other pivot <|
                    let size := (high - low).toNat
                    s.part pivot high size (size + 2) low (high - 1) fun p =>
                      if p - low < high - p then
                        s.interval fuel low (p - 1) (s.interval fuel (p + 1) high next)
                      else s.interval fuel (p + 1) high (s.interval fuel low (p - 1) next)
            s.arrange low middle fun swapped =>
              if swapped then parted () else s.arrange middle high fun _ => parted ()

end Sorting

/-- Sort a list. -/
def tableSort : String × Native :=
  memoryNative "sort" (fun c m => do return (← c.list m 1 changedList, c)) fun (list, c) =>
    listLength list fun n =>
      if n < 2 then finish []
      else if n ≥ Nat.pow 2 31 - 1 then c.raiseArgument 1 (Bytes.ofText "array too big")
      else
        match if c.lacks 2 then .ok .nil else c.function 2 with
        | .error fault => c.raise fault
        | .ok order => (Sorting.mk list order).interval (n.toNat + 1) 1 n (finish [])

/-- The functions of tables. -/
def tableFunctions : List (String × Native) :=
  [tableInsert, tableRemove, tableConcat, tableUnpack, tablePack, tableMove, tableSort]

end Folio.Lua
