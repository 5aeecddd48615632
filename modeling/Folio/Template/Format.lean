import Folio.Template.Arithmetic
import Folio.Text.Conversion

/-!
# Formatted texts

A format is a text with conversions in it. A conversion begins with a percent sign and has an
optional name in parentheses, flags, a width, a precision and a letter. It takes the argument of that
name, or the next one.

Main definitions:
- `Template.conversion?`: reading a conversion
- `Template.converted`: one datum under a conversion
- `Template.formatted`: a format with its arguments in place
-/

namespace Folio.Template

open Text (Conversion)

/-! ## Section 1: Reading conversions -/

/-- What a conversion asks for: the name of its argument, if it has one, whether its width is an
argument too, and how the argument is to stand. -/
structure Placeholder where
  name : Option String := none
  widthGiven : Bool := false
  conversion : Conversion

/-- The value of digits. -/
def digitsValue (cs : List Char) : Nat := cs.foldl (fun n c => 10 * n + (c.toNat - 48)) 0

/-- A conversion after its percent sign and name, and what follows it. -/
def conversion? (name : Option String) (cs : List Char) : Option (Placeholder × List Char) :=
  let flags := cs.takeWhile fun c => "-+ #0".toList.contains c
  let rest := cs.drop flags.length
  let (widthGiven, width, rest) := match rest with
    | '*' :: more => (true, 0, more)
    | rest => (false, digitsValue (rest.takeWhile Char.isDigit), rest.dropWhile Char.isDigit)
  let (precision, rest) : Option Nat × List Char := match rest with
    | '.' :: more => (some (digitsValue (more.takeWhile Char.isDigit)), more.dropWhile Char.isDigit)
    | rest => (none, rest)
  match rest.dropWhile fun c => "hlL".toList.contains c with
  | [] => none
  | letter :: rest =>
      let c : Conversion := flags.foldl Conversion.addFlag { width, precision, letter }
      some ({ name, widthGiven, conversion := c }, rest)

/-- A conversion after its percent sign, and what follows it. -/
def placeholder? : List Char → Option (Placeholder × List Char)
  | '(' :: rest =>
      match rest.dropWhile (· ≠ ')') with
      | ')' :: more => conversion? (some (String.ofList (rest.takeWhile (· ≠ ')')))) more
      | _ => none
  | cs => conversion? none cs

/-! ## Section 2: Conversions of data -/

/-- The longest width and precision. -/
def maxWidth : Nat := 100000

/-- What stands before the digits of a whole number in a base. -/
def baseMark (c : Conversion) : List Char :=
  if !c.alternative then []
  else match c.letter with
    | 'o' => ['0', 'o']
    | 'x' => ['0', 'x']
    | 'X' => ['0', 'X']
    | _ => []

/-- A datum under a conversion. -/
def converted (c : Conversion) (d : Datum) : Except Fault (List Char) :=
  match c.letter with
  | 's' => .ok (c.text d.text.toList)
  | 'd' | 'i' | 'u' | 'o' | 'x' | 'X' =>
      match d.int? with
      | some n => .ok ({ c with alternative := false }.whole (c.sign (n < 0) ++ baseMark c) n.natAbs)
      | none => .error (.invalid "format requires an integer")
  | 'e' | 'E' | 'f' | 'F' | 'g' | 'G' =>
      match d.float? true with
      | some x => .ok (c.double x)
      | none => .error (.invalid "format requires a number")
  | 'c' =>
      match d with
      | .str s _ =>
          if s.length = 1 then .ok (c.pad s.toList)
          else .error (.invalid "format requires a single character")
      | d =>
          match d.int? with
          | some n =>
              if 0 ≤ n ∧ n.toNat.isValidChar then .ok (c.pad [Char.ofNat n.toNat])
              else .error (.invalid "character out of range")
          | none => .error (.invalid "format requires a character")
  | _ => .error (.invalid "unsupported format character")

/-! ## Section 3: Formats -/

/-- The next argument and those after it. -/
def takeArgument : List Datum → Except Fault (Datum × List Datum)
  | [] => .error (.badArguments "not enough arguments for format string")
  | d :: rest => .ok (d, rest)

/-- A format with its arguments in place. Each step takes a character at least. -/
def formattedFrom (named : List (String × Datum)) :
    Nat → List Datum → List Char → Except Fault (List Char)
  | 0, _, _ => .ok []
  | _ + 1, [], [] => .ok []
  | _ + 1, _ :: _, [] => .error (.badArguments "not all arguments converted")
  | fuel + 1, args, '%' :: '%' :: rest => (formattedFrom named fuel args rest).map ('%' :: ·)
  | fuel + 1, args, '%' :: rest => do
      let some (p, rest) := placeholder? rest | throw (.invalid "incomplete format")
      let (c, args) ←
        if p.widthGiven then do
          let (width, args) ← takeArgument args
          let some n := width.int? | throw (.invalid "format requires an integer")
          let c := { p.conversion with width := n.natAbs, left := p.conversion.left || n < 0 }
          pure (c, args)
        else pure (p.conversion, args)
      if c.width > maxWidth || c.precision.any (· > maxWidth) then throw (.invalid "too wide")
      let (d, args) ← match p.name with
        | none => takeArgument args
        | some name =>
            match Datum.lookupName name named with
            | some d => pure (d, args)
            | none => throw (.badArguments ("missing argument " ++ name))
      let cs ← converted c d
      return cs ++ (← formattedFrom named fuel args rest)
  | fuel + 1, args, c :: rest => (formattedFrom named fuel args rest).map (c :: ·)

/-- A format with its arguments in place, which are given by position or by name but not both. -/
def formatted (format : String) (positional : List Datum) (named : List (String × Datum)) :
    Except Fault String := do
  if !positional.isEmpty && !named.isEmpty then
    throw (.badArguments "cannot mix positional and named arguments")
  return String.ofList (← formattedFrom named (format.length + 1) positional format.toList)

end Folio.Template
