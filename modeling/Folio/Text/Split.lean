import Folio.Text.Blank

/-!
# Cutting texts

Main definitions:
- `Text.splitOnText`: the parts between occurrences of a separator
- `Text.replaceAll`: occurrences of a text replaced
- `Text.words`, `Text.lines`
-/

namespace Folio.Text

/-- The text before the first occurrence of a separator and the text after it. -/
def cutAt? (separator : List Char) : List Char → Option (List Char × List Char)
  | [] => (stripStart? separator []).map fun rest => ([], rest)
  | c :: cs =>
      match stripStart? separator (c :: cs) with
      | some rest => some ([], rest)
      | none => (cutAt? separator cs).map fun (before, after) => (c :: before, after)

/-- The parts between occurrences of a separator, at most `count + 1` of them. -/
def partsOf (separator : List Char) : Nat → List Char → List (List Char)
  | 0, cs => [cs]
  | count + 1, cs =>
      match cutAt? separator cs with
      | none => [cs]
      | some (before, after) => before :: partsOf separator count after

/-- The parts between the characters of a text, at most `count + 1` of them: an empty separator
stands before, between and after them. -/
def partsOfChars : Nat → List Char → List (List Char)
  | 0, cs => [cs]
  | _ + 1, [] => [[]]
  | count + 1, c :: cs => if count = 0 then [c :: cs] else
      [c] :: partsOfChars count cs

/-- The parts between occurrences of a separator, at most `limit` of them. -/
def splitOnText (separator : String) (limit : Option Nat) (s : String) : List String :=
  let cs := s.toList
  let most := limit.getD (cs.length + 2)
  if most = 0 then []
  else if separator.isEmpty then
    if most = 1 then [s]
    else "" :: (partsOfChars (most - 1) cs).map String.ofList
  else (partsOf separator.toList (most - 1) cs).map String.ofList

/-- The text with every occurrence of a text replaced, from the left, without overlaps. -/
def replaceAll (old new s : String) : String := new.intercalate (splitOnText old none s)

/-- The parts between single characters of a class, at most `count + 1` of them. -/
def partsBy (p : Char → Bool) : Nat → List Char → List (List Char)
  | 0, cs => [cs]
  | count + 1, cs =>
      let before := cs.takeWhile fun c => !p c
      match cs.dropWhile fun c => !p c with
      | [] => [before]
      | _ :: after => before :: partsBy p count after

/-- The runs of characters outside a class. -/
def runsOutside (p : Char → Bool) (cs : List Char) : List String :=
  ((partsBy p cs.length cs).filter (· ≠ [])).map String.ofList

/-- The lines of a text, without their ends. -/
def lines (s : String) : List String :=
  let parts := partsOf ['\n'] s.toList.length s.toList
  let parts := if parts.getLast? = some [] then parts.dropLast else parts
  parts.map fun line =>
    String.ofList (if line.getLast? = some '\r' then line.dropLast else line)

end Folio.Text
