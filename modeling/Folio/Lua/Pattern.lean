import Folio.Lua.Bytes

/-!
# Patterns

Patterns describe parts of strings. An item is a character, a class or a set of characters, which may
be repeated; a capture remembers what a part of the pattern matched.

A malformed pattern is noticed only when matching reaches the malformed part. Matching is limited in
depth: repetitions and captures inside each other count.

Main definitions:
- `Lua.Pattern.Fault`: why a pattern cannot be matched
- `Lua.Pattern.Single`: what matches a single character
- `Lua.Pattern.matchAt`: a match at a place
- `Lua.Pattern.captured`: what was captured
- `Lua.Pattern.replacement`: a replacement text for a match
-/

namespace Folio.Lua.Pattern

/-! ## Section 1: Faults -/

/-- Why a pattern cannot be matched, or a match not be replaced. -/
inductive Fault where
  | endsWithPercent
  | missingBracket
  | missingArguments
  | missingSet
  | tooComplex
  | tooManyCaptures
  | invalidCapture
  | unfinishedCapture
  | invalidIndex (i : Nat)
  | invalidReplacement
  | invalidReplacementIndex (i : Nat)
deriving DecidableEq, Inhabited

/-- The wording of a fault. -/
def Fault.message : Fault → String
  | .endsWithPercent => "malformed pattern (ends with '%')"
  | .missingBracket => "malformed pattern (missing ']')"
  | .missingArguments => "malformed pattern (missing arguments to '%b')"
  | .missingSet => "missing '[' after '%f' in pattern"
  | .tooComplex => "pattern too complex"
  | .tooManyCaptures => "too many captures"
  | .invalidCapture => "invalid pattern capture"
  | .unfinishedCapture => "unfinished capture"
  | .invalidIndex i => "invalid capture index %" ++ toString i
  | .invalidReplacement => "invalid use of '%' in replacement string"
  | .invalidReplacementIndex i =>
      "invalid capture index %" ++ toString i ++ " in replacement string"

/-! ## Section 2: Single characters -/

/-- Whether a character belongs to the class of a letter. Another character is a class of itself. -/
def inClass (letter c : Char) : Bool :=
  let n := c.toNat
  let isPunct := (33 ≤ n && n ≤ 47) || (58 ≤ n && n ≤ 64) || (91 ≤ n && n ≤ 96) || (123 ≤ n && n ≤ 126)
  let isHex := (Decimal.hexDigit? c).isSome
  let plain : Option Bool := match letter.toLower with
    | 'a' => some c.isAlpha
    | 'c' => some (n < 32 || n = 127)
    | 'd' => some c.isDigit
    | 'g' => some (33 ≤ n && n ≤ 126)
    | 'l' => some c.isLower
    | 'p' => some isPunct
    | 's' => some (isBlank c)
    | 'u' => some c.isUpper
    | 'w' => some c.isAlphanum
    | 'x' => some isHex
    | 'z' => some (n = 0)
    | _ => none
  match plain with
  | some b => if letter.isUpper then !b else b
  | none => letter = c

/-- What matches a single character. -/
inductive Single where
  | any
  | literal (c : Char)
  | ofClass (letter : Char)
  /-- A set by its text, or what is not in it. -/
  | set (negated : Bool) (content : List Char)

/-- Whether a character is in a set. A percent sign at the end stands for the bracket after it. -/
def inSet (c : Char) : List Char → Bool
  | [] => false
  | ['%'] => c = ']'
  | '%' :: letter :: rest => inClass letter c || inSet c rest
  | low :: '-' :: high :: rest => (low ≤ c && c ≤ high) || inSet c rest
  | other :: rest => other = c || inSet c rest

/-- Whether a character matches. -/
def Single.fits : Single → Char → Bool
  | .any, _ => true
  | .literal a, c => a = c
  | .ofClass letter, c => inClass letter c
  | .set negated content, c => inSet c content != negated

/-- The content of a set up to its closing bracket, and what follows. A bracket at the front belongs
to the content. -/
def setContent : Bool → List Char → Option (List Char × List Char)
  | _, [] => none
  | atFront, c :: rest =>
      if c = ']' && !atFront then some ([], rest)
      else if c = '%' then
        match rest with
        | [] => none
        | d :: rest => (setContent false rest).map fun (content, after) => (c :: d :: content, after)
      else (setContent false rest).map fun (content, after) => (c :: content, after)

/-- A single character in a pattern, and what follows it. -/
def single : List Char → Except Fault (Single × List Char)
  | [] => .error .endsWithPercent
  | '.' :: rest => .ok (.any, rest)
  | '%' :: rest =>
      match rest with
      | letter :: rest => .ok (.ofClass letter, rest)
      | [] => .error .endsWithPercent
  | '[' :: rest =>
      let negated := rest.head? = some '^'
      match setContent true (if negated then rest.drop 1 else rest) with
      | some (content, after) => .ok (.set negated content, after)
      | none => .error .missingBracket
  | c :: rest => .ok (.literal c, rest)

/-! ## Section 3: Captures -/

/-- What a capture holds. -/
inductive Extent where
  | unfinished
  | position
  | length (n : Nat)
deriving DecidableEq, Inhabited

/-- A capture: where it begins, and what it holds. -/
structure Capture where
  start : Nat
  extent : Extent
deriving Inhabited

/-- Captures in the order in which they begin. -/
abbrev Captures := List Capture

/-- The greatest number of captures. -/
def maxCaptures : Nat := 32

/-- End the last capture that has not ended. Captures stand in reverse. -/
def closeLast (stop : Nat) : Captures → Option Captures
  | [] => none
  | c :: rest =>
      if c.extent = .unfinished then some ({ c with extent := .length (stop - c.start) } :: rest)
      else (closeLast stop rest).map (c :: ·)

/-- The end of a match and its captures; nothing if there is none. -/
abbrev Match := Except Fault (Option (Nat × Captures))

/-! ## Section 4: Repetition -/

/-- Try what follows after as many repetitions as possible, then after fewer. -/
def tryLongest (attempt : Nat → Match) (start : Nat) : Nat → Match
  | 0 => attempt start
  | count + 1 =>
      match attempt (start + count + 1) with
      | .ok none => tryLongest attempt start count
      | result => result

/-- Try what follows after as few repetitions as possible, then after more. -/
def tryShortest (attempt : Nat → Match) (fits : Nat → Bool) : Nat → Nat → Match
  | 0, _ => .ok none
  | fuel + 1, place =>
      match attempt place with
      | .ok none => if fits place then tryShortest attempt fits fuel (place + 1) else .ok none
      | result => result

/-- How many characters from a place on fit, at most a number of them. -/
def countFits (fits : Nat → Bool) : Nat → Nat → Nat
  | 0, _ => 0
  | fuel + 1, place => if fits place then countFits fits fuel (place + 1) + 1 else 0

/-! ## Section 5: Matches -/

/-- The place after a balanced part of a string, after its first character. -/
def balanced (s : Bytes) (opener closer : UInt8) : Nat → Nat → Nat → Option Nat
  | 0, _, _ => none
  | fuel + 1, depth, place =>
      match s.at? place with
      | none => none
      | some c =>
          if c = closer then
            if depth = 1 then some (place + 1) else balanced s opener closer fuel (depth - 1) (place + 1)
          else if c = opener then balanced s opener closer fuel (depth + 1) (place + 1)
          else balanced s opener closer fuel depth (place + 1)

/-- The character at a place. -/
def charAt? (s : Bytes) (place : Nat) : Option Char := (s.at? place).map fun b => Char.ofNat b.toNat

/-- How deeply repetitions and captures are matched inside each other. -/
def maxDepth : Nat := 200

/-- Match a pattern at a place, at a depth that is counted down. Each step takes a part of the
pattern. -/
def matchFrom (s : Bytes) : Nat → Nat → Nat → List Char → Captures → Match
  | 0, _, _, _, _ => .error .tooComplex
  | fuel + 1, depth, place, pattern, captures =>
      let deeper (place : Nat) (pattern : List Char) (captures : Captures) : Match :=
        if depth ≤ 1 then .error .tooComplex else matchFrom s fuel (depth - 1) place pattern captures
      let ordinary (_ : Unit) : Match := do
        let (item, rest) ← single pattern
        let fits (i : Nat) : Bool := (charAt? s i).any item.fits
        match rest with
        | '?' :: after =>
            if fits place then
              match deeper (place + 1) after captures with
              | .ok none => matchFrom s fuel depth place after captures
              | result => result
            else matchFrom s fuel depth place after captures
        | '+' :: after =>
            if fits place then
              tryLongest (deeper · after captures) (place + 1) (countFits fits s.size (place + 1))
            else .ok none
        | '*' :: after =>
            if fits place then tryLongest (deeper · after captures) place (countFits fits s.size place)
            else matchFrom s fuel depth place after captures
        | '-' :: after =>
            if fits place then tryShortest (deeper · after captures) fits (s.size + 2) place
            else matchFrom s fuel depth place after captures
        | after =>
            if fits place then matchFrom s fuel depth (place + 1) after captures else .ok none
      let opened (extent : Extent) (rest : List Char) : Match :=
        if captures.length ≥ maxCaptures then .error .tooManyCaptures
        else deeper place rest (⟨place, extent⟩ :: captures)
      match pattern with
      | [] => .ok (some (place, captures.reverse))
      | '(' :: ')' :: rest => opened .position rest
      | '(' :: rest => opened .unfinished rest
      | ')' :: rest =>
          match closeLast place captures with
          | some captures => deeper place rest captures
          | none => .error .invalidCapture
      | ['$'] => .ok (if place = s.size then some (place, captures.reverse) else none)
      | '%' :: 'b' :: rest =>
          match rest with
          | opener :: closer :: rest =>
              if charAt? s place = some opener then
                match balanced s opener.toNat.toUInt8 closer.toNat.toUInt8 (s.size + 1) 1 (place + 1) with
                | some place => matchFrom s fuel depth place rest captures
                | none => .ok none
              else .ok none
          | _ => .error .missingArguments
      | '%' :: 'f' :: rest =>
          if rest.head? ≠ some '[' then .error .missingSet
          else do
            let (item, rest) ← single rest
            let nul := Char.ofNat 0
            let before := if place = 0 then nul else (charAt? s (place - 1)).getD nul
            let here := (charAt? s place).getD nul
            if !item.fits before && item.fits here then matchFrom s fuel depth place rest captures
            else .ok none
      | '%' :: d :: rest =>
          if d.isDigit then
            let i := d.toNat - '0'.toNat
            match if i = 0 then none else captures.reverse[i - 1]? with
            | some ⟨start, .length n⟩ =>
                if s.slice start (start + n) == s.slice place (place + n) && place + n ≤ s.size then
                  matchFrom s fuel depth (place + n) rest captures
                else .ok none
            | some ⟨_, .position⟩ => .ok none
            | _ => .error (.invalidIndex i)
          else ordinary ()
      | _ => ordinary ()

/-- Match a pattern at a place. -/
def matchAt (s : Bytes) (pattern : List Char) (place : Nat) : Match :=
  matchFrom s (pattern.length + 2) maxDepth place pattern []

/-- Whether a text has a character that means something in patterns. -/
def hasSpecials (pattern : List Char) : Bool := pattern.any fun c => "^$*+?.([%-".toList.contains c

/-! ## Section 6: Results -/

/-- Something captured. -/
inductive Captured where
  | text (s : Bytes)
  | position (n : Nat)
deriving Inhabited

/-- What a capture holds. -/
def captureValue (s : Bytes) (c : Capture) : Except Fault Captured :=
  match c.extent with
  | .unfinished => .error .unfinishedCapture
  | .position => .ok (.position (c.start + 1))
  | .length n => .ok (.text (s.slice c.start (c.start + n)))

/-- What was captured; without captures, the whole match from `start` to `stop`. -/
def captured (s : Bytes) (start stop : Nat) (captures : Captures) : Except Fault (List Captured) :=
  if captures.isEmpty then .ok [.text (s.slice start stop)]
  else captures.mapM (captureValue s)

/-- What was captured first; without captures, the whole match. -/
def firstCaptured (s : Bytes) (start stop : Nat) (captures : Captures) : Except Fault Captured :=
  match captures with
  | [] => .ok (.text (s.slice start stop))
  | c :: _ => captureValue s c

/-- Something captured as text. -/
def Captured.bytes : Captured → Bytes
  | .text s => s
  | .position n => Bytes.ofText (toString n)

/-- What a digit stands for in a replacement text. Without captures, the first one is the whole
match. -/
def replacementValue (s : Bytes) (start stop : Nat) (captures : Captures) (i : Nat) :
    Except Fault Captured :=
  if i = 0 then .ok (.text (s.slice start stop))
  else
    match captures[i - 1]? with
    | some c => captureValue s c
    | none =>
        if i = 1 then .ok (.text (s.slice start stop)) else .error (.invalidReplacementIndex i)

/-- A replacement text for a match: a digit after a percent sign stands for a capture, zero for the
whole match. -/
def replacement (s : Bytes) (start stop : Nat) (captures : Captures) :
    List Char → Except Fault (List Char)
  | [] => .ok []
  | '%' :: c :: rest => do
      let part ←
        if c = '%' then pure ['%']
        else if c.isDigit then
          (·.bytes.chars) <$> replacementValue s start stop captures (c.toNat - '0'.toNat)
        else .error .invalidReplacement
      return part ++ (← replacement s start stop captures rest)
  | ['%'] => .error .invalidReplacement
  | c :: rest => do return c :: (← replacement s start stop captures rest)

end Folio.Lua.Pattern
