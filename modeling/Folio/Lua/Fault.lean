import Folio.Lua.Bytes

/-!
# Malformed programs

Why a text is no program. A message names the chunk, the line up to which the text was read and, for
most faults, the token at which reading stopped.

Main definitions:
- `Lua.SyntaxFault`: the causes
- `Lua.SyntaxError`: a cause with its place
- `Lua.chunkTitle`: how messages name a chunk
-/

namespace Folio.Lua

/-! ## Section 1: Causes -/

/-- Why a text is no program. -/
inductive SyntaxFault where
  | unfinishedString
  | unfinishedLong (kind : String) (line : Nat)
  | longDelimiter
  | malformedNumber
  | invalidEscape
  | hexExpected
  | missingOpening
  | missingClosing
  | pointTooLarge
  | decimalTooLarge
  /-- Another token stands where one is required. -/
  | expected (token : String)
  /-- Another token stands where the end of something is required that began on a line. -/
  | unclosed (token opener : String) (line : Nat)
  | unexpectedSymbol
  | statement
  | varargsOutside
  | argumentsExpected
  | parameterExpected
  | loopExpected
  | unknownAttribute (name : String)
  | assignConstant (name : String)
  | twoClosing
  | breakOutside (line : Nat)
  | noLabel (name : String) (line : Nat)
  | jumpsIntoScope (name : String) (line : Nat) (entered : String)
  | repeatedLabel (name : String) (line : Nat)
  /-- More things of a kind than a function can have. The main function begins on no line. -/
  | tooMany (what : String) (limit line : Nat)
  | tooManyRegisters
  /-- The text nests more deeply than can be read. -/
  | tooDeep
deriving DecidableEq, Inhabited

/-- The wording of a cause. -/
def SyntaxFault.message : SyntaxFault → String
  | .unfinishedString => "unfinished string"
  | .unfinishedLong kind line =>
      "unfinished long " ++ kind ++ " (starting at line " ++ toString line ++ ")"
  | .longDelimiter => "invalid long string delimiter"
  | .malformedNumber => "malformed number"
  | .invalidEscape => "invalid escape sequence"
  | .hexExpected => "hexadecimal digit expected"
  | .missingOpening => "missing '\x7b'"
  | .missingClosing => "missing '\x7d'"
  | .pointTooLarge => "UTF-8 value too large"
  | .decimalTooLarge => "decimal escape too large"
  | .expected token => token ++ " expected"
  | .unclosed token opener line =>
      token ++ " expected (to close " ++ opener ++ " at line " ++ toString line ++ ")"
  | .unexpectedSymbol => "unexpected symbol"
  | .statement => "syntax error"
  | .varargsOutside => "cannot use '...' outside a vararg function"
  | .argumentsExpected => "function arguments expected"
  | .parameterExpected => "<name> or '...' expected"
  | .loopExpected => "'=' or 'in' expected"
  | .unknownAttribute name => "unknown attribute '" ++ name ++ "'"
  | .assignConstant name => "attempt to assign to const variable '" ++ name ++ "'"
  | .twoClosing => "multiple to-be-closed variables in local list"
  | .breakOutside line => "break outside a loop at line " ++ toString line
  | .noLabel name line =>
      "no visible label '" ++ name ++ "' for <goto> at line " ++ toString line
  | .jumpsIntoScope name line entered =>
      "<goto " ++ name ++ "> at line " ++ toString line ++ " jumps into the scope of local '"
        ++ entered ++ "'"
  | .repeatedLabel name line =>
      "label '" ++ name ++ "' already defined on line " ++ toString line
  | .tooMany what limit line =>
      "too many " ++ what ++ " (limit is " ++ toString limit ++ ") in "
        ++ (if line = 0 then "main function" else "function at line " ++ toString line)
  | .tooManyRegisters => "function or expression needs too many registers"
  | .tooDeep => "C stack overflow"

/-- A cause with the line and the token at which reading stopped. A text that nests too deeply has no
place. -/
structure SyntaxError where
  fault : SyntaxFault
  line : Nat
  near : Option Bytes := none
deriving Inhabited

/-! ## Section 2: Places -/

/-- The longest name of a chunk in messages, with the byte after its end. -/
def titleSize : Nat := 60

/-- How messages name a chunk: by a name that is marked as one, or by the beginning of its text. A
zero byte ends the name. -/
def chunkTitle (name : Bytes) : Bytes :=
  let cs := name.chars
  let ended (cs : List Char) : Bytes := Bytes.ofChars (cs.takeWhile (·.toNat ≠ 0))
  match cs with
  | '=' :: rest => ended (rest.take (titleSize - 1))
  | '@' :: rest =>
      if rest.length < titleSize then ended rest
      else ended ("...".toList ++ rest.drop (rest.length - (titleSize - 4)))
  | _ =>
      let room := titleSize - 15
      let visible := cs.takeWhile (·.toNat ≠ 0)
      let line := visible.takeWhile (· ≠ '\n')
      let shown := if line.length = visible.length && cs.length < room then cs
        else (if line.length = visible.length then cs else line).take room ++ "...".toList
      ended ("[string \"".toList ++ shown ++ "\"]".toList)

/-- The beginning of a message about a line of a chunk. -/
def placeText (title : Bytes) (line : Nat) : Bytes :=
  title ++ Bytes.ofText (":" ++ toString line ++ ": ")

/-- The message of an error in a chunk. -/
def SyntaxError.message (e : SyntaxError) (title : Bytes) : Bytes :=
  match e.fault with
  | .tooDeep => Bytes.ofText e.fault.message
  | fault =>
      let message := placeText title e.line ++ Bytes.ofText fault.message
      match e.near with
      | none => message
      | some token => message ++ Bytes.ofText " near " ++ token

end Folio.Lua
