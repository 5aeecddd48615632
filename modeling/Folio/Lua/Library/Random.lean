import Folio.Lua.Library.Arguments

/-!
# Random numbers

A generator of four words of 64 bits. A number up to a limit comes from the low bits of the first
number that fits.

Main definitions:
- `Lua.nextRandom`: the next number of the generator
- `Lua.randomFunctions`: the functions
-/

namespace Folio.Lua

open Effect

/-! ## Section 1: The generator -/

/-- The state of the generator. -/
abbrev Seed := UInt64 × UInt64 × UInt64 × UInt64

/-- Bits rotated to the left. -/
def rotate (x : UInt64) (n : UInt64) : UInt64 := (x <<< n) ||| (x >>> (64 - n))

/-- The next number of the generator. -/
def nextRandom (seed : Seed) : UInt64 × Seed :=
  let (a, b, c, d) := seed
  let result := rotate (b * 5) 7 * 9
  let c' := c ^^^ a
  let d' := d ^^^ b
  (result, (a ^^^ d', b ^^^ c', c' ^^^ (b <<< 17), rotate d' 45))

/-- The generator after a number of steps. -/
def skipRandom : Nat → Seed → Seed
  | 0, seed => seed
  | count + 1, seed => skipRandom count (nextRandom seed).2

/-- The generator for two numbers. -/
def seedOf (a b : UInt64) : Seed := skipRandom 16 (a, 0xff, b, 0)

/-- The least number of the form `2 ^ k - 1` that is not below a number. -/
def maskOf (n : UInt64) : UInt64 :=
  ([1, 2, 4, 8, 16, 32] : List UInt64).foldl (fun x shift => x ||| (x >>> shift)) n

/-- A number of the generator up to a limit. -/
def randomUpTo (limit : UInt64) : Nat → UInt64 → Seed → UInt64 × Seed
  | 0, x, seed => (min x limit, seed)
  | fuel + 1, x, seed =>
      let x := x &&& maskOf limit
      if x ≤ limit then (x, seed)
      else
        let (x, seed) := nextRandom seed
        randomUpTo limit fuel x seed

/-! ## Section 2: Functions -/

/-- What kind of random number is asked for. -/
inductive RandomKind where
  /-- A double below one. -/
  | fraction
  /-- Any integer. -/
  | anything
  | between (low high : Int64)

/-- A random number, made from the next number of the generator. -/
def randomValue (kind : RandomKind) (seed : Seed) : Val × Seed :=
  let (x, seed) := nextRandom seed
  match kind with
  | .fraction => (.float (Binary64.ofDyadic (x >>> 11).toNat (-53)), seed)
  | .anything => (.int x.toInt64, seed)
  | .between low high =>
      let (offset, seed) := randomUpTo (high.toUInt64 - low.toUInt64) 10000 x seed
      (.int (offset + low.toUInt64).toInt64, seed)

/-- A random number: a double below one, or an integer between bounds. A call that fails takes a number
of the generator too. -/
def mathRandom : String × Native :=
  ("random", fun self _ args => fun m =>
    let c : Call := ⟨self, args⟩
    let between (low high : Int64) : Except CallFault RandomKind :=
      if low > high then Call.bad 2 "interval is empty" else .ok (.between low high)
    let kind : Except CallFault RandomKind := do
      match args.length with
      | 0 => return .fraction
      | 1 =>
          let high ← c.int 1
          if high = 0 then return .anything else between 1 high
      | 2 => between (← c.int 1) (← c.int 2)
      | _ => Call.fail "wrong number of arguments"
    match kind with
    | .error fault => c.raise fault { m with seed := (nextRandom m.seed).2 }
    | .ok kind =>
        let (v, seed) := randomValue kind m.seed
        finish [v] { m with seed })

/-- Set the generator by two numbers; by itself if there are none. -/
def mathSeed : String × Native :=
  memoryNative "randomseed" (fun c m => do
    if c.args.isEmpty then
      let (a, seed) := nextRandom m.seed
      return (a, (nextRandom seed).1)
    let a ← match c.arg 1 with
      | .int n => pure n
      | _ => do
          let x ← c.float 1
          pure ((exactInt? x).getD x.toBits.toInt64)
    let b ← c.optInt 2 0
    return (a.toUInt64, (Int64.ofInt b).toUInt64))
    fun (a, b) => change (fun m => { m with seed := seedOf a b }) <|
      finish [.int a.toInt64, .int b.toInt64]

/-- The functions of random numbers. -/
def randomFunctions : List (String × Native) := [mathRandom, mathSeed]

end Folio.Lua
