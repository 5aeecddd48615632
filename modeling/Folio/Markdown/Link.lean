import Folio.Markdown.Entity
import Folio.Text.Fold

/-!
# Link destinations, titles and labels

Main definitions:
- `Markdown.destination?`, `Markdown.title?`, `Markdown.label?`: a part of a link at the front of a
  text
- `Markdown.normalLabel`: labels are equal that differ in case or white space alone
- `Markdown.References`: the link definitions of a document
- `Markdown.takeDefinitions`: the definitions at the front of a paragraph
-/

namespace Folio.Markdown

/-! ## Section 1: Destinations -/

/-- The text between angle brackets after the first of them, and what follows the last. A character
after a backslash is no bracket and no line end. -/
def angledDestination? : List Char → Option (List Char × List Char)
  | [] => none
  | '\\' :: c :: rest =>
      (angledDestination? rest).map fun (inside, after) => ('\\' :: c :: inside, after)
  | c :: rest =>
      if c = '>' then some ([], rest)
      else if isLineEnd c || c = '<' then none
      else (angledDestination? rest).map fun (inside, after) => (c :: inside, after)

/-- How deeply parentheses in a destination can nest. -/
def maxParentheses : Nat := 32

/-- Whether a character ends a destination without brackets: white space or a control character. -/
def endsDestination (c : Char) : Bool := c.toNat ≤ 32 || c.toNat = 127

/-- A destination up to white space, a control character or a parenthesis that closes none inside
it, and what follows. -/
def bareDestination? (opened : Nat) : List Char → Option (List Char × List Char)
  | [] => if opened = 0 then some ([], []) else none
  | c :: rest =>
      let more (opened : Nat) : Option (List Char × List Char) :=
        (bareDestination? opened rest).map fun (inside, after) => (c :: inside, after)
      if c = '\\' then
        match rest with
        | d :: rest' =>
            if isAsciiPunctuation d then
              (bareDestination? opened rest').map fun (inside, after) => (c :: d :: inside, after)
            else more opened
        | [] => more opened
      else if c = '(' then (if opened ≥ maxParentheses then none else more (opened + 1))
      else if c = ')' then (if opened = 0 then some ([], c :: rest) else more (opened - 1))
      else if endsDestination c then (if opened = 0 then some ([], c :: rest) else none)
      else more opened

/-- The destination at the front of a text, and what follows it. -/
def destination? : List Char → Option (List Char × List Char)
  | [] => none
  | '<' :: rest => angledDestination? rest
  | c :: rest => if endsDestination c then none else bareDestination? 0 (c :: rest)

/-! ## Section 2: Titles -/

/-- A title after its opening delimiter up to the closing one, and what follows that. A closing
delimiter after a backslash is part of the title if another one follows. -/
def titleRest? (opener closer : Char) : Bool → List Char → Option (List Char × List Char)
  | _, [] => none
  | afterBackslash, c :: rest =>
      let longer : Option (List Char × List Char) :=
        (titleRest? opener closer (c = '\\') rest).map fun (inside, after) => (c :: inside, after)
      if c = closer then (if afterBackslash then longer.or (some ([], rest)) else some ([], rest))
      else if c = opener && !afterBackslash then none
      else longer

/-- The title at the front of a text, without its delimiters, and what follows it. -/
def title? : List Char → Option (List Char × List Char)
  | '"' :: rest => titleRest? '"' '"' false rest
  | '\'' :: rest => titleRest? '\'' '\'' false rest
  | '(' :: rest => titleRest? '(' ')' false rest
  | _ => none

/-! ## Section 3: Labels -/

/-- The greatest length of a label. -/
def maxLabel : Nat := 1000

/-- A label after its opening bracket up to the closing one, and what follows that. -/
def labelRest? : Nat → List Char → Option (List Char × List Char)
  | 0, _ => none
  | _ + 1, [] => none
  | most + 1, '\\' :: c :: rest =>
      if isAsciiPunctuation c then
        (labelRest? (most - 1) rest).map fun (inside, after) => ('\\' :: c :: inside, after)
      else (labelRest? most (c :: rest)).map fun (inside, after) => ('\\' :: inside, after)
  | most + 1, c :: rest =>
      if c = ']' then some ([], rest)
      else if c = '[' then none
      else (labelRest? most rest).map fun (inside, after) => (c :: inside, after)

/-- Drop white space in the narrow sense at both ends. -/
def trimSpacing (cs : List Char) : List Char :=
  Text.dropEndWhile isSpacing (cs.dropWhile isSpacing)

/-- The label in brackets at the front of a text, and what follows it. -/
def label? : List Char → Option (List Char × List Char)
  | '[' :: rest =>
      (labelRest? (maxLabel + 1) rest).map fun (inside, after) =>
        (Text.dropEndWhile isSpacing inside, after)
  | _ => none

/-- Each run of white space replaced by one space. -/
def collapseSpaces : Bool → List Char → List Char
  | _, [] => []
  | afterSpace, c :: rest =>
      if Text.isSpace c then
        if afterSpace then collapseSpaces true rest else ' ' :: collapseSpaces true rest
      else c :: collapseSpaces false rest

/-- A label with its white space collapsed, and without that at its end. -/
def tidyLabel (cs : List Char) : List Char :=
  collapseSpaces false (Text.dropEndWhile isSpacing cs)

/-- A label in the form in which labels are compared. -/
def normalLabel (cs : List Char) : List Char := Text.fold (tidyLabel cs)

/-! ## Section 4: Definitions -/

/-- Where a link leads, and its title. -/
structure LinkTarget where
  url : String
  title : String
deriving DecidableEq, Inhabited

/-- The link definitions of a document, by normal label. The first of a label counts. -/
abbrev References := List (List Char × LinkTarget)

/-- The target of a label. -/
def References.lookup? (references : References) (label : List Char) : Option LinkTarget :=
  let normal := normalLabel label
  if normal = [] then none
  else (references.find? fun entry => entry.1 = normal).map Prod.snd

/-- A destination as it is meant. -/
def cleanUrl (cs : List Char) : String :=
  String.ofList (unescapeText (Text.dropEndWhile isSpacing cs))

/-- A title as it is meant. -/
def cleanTitle (cs : List Char) : String := String.ofList (unescapeText cs)

/-- Skip spaces and tabs, at most one line end, and spaces and tabs after it. -/
def skipToNext (cs : List Char) : List Char :=
  (skipLineEnd (cs.dropWhile isSpaceOrTab)).dropWhile isSpaceOrTab

/-- What follows the end of a line, if nothing but spaces stands before it. -/
def lineRest? (cs : List Char) : Option (List Char) :=
  let cs := cs.dropWhile isSpaceOrTab
  if atLineEnd cs then some (skipLineEnd cs) else none

/-- The link definition at the front of a text, and what follows it. -/
def definition? (cs : List Char) : Option (List Char × LinkTarget × List Char) :=
  match label? cs with
  | some (label, ':' :: rest) =>
      if label = [] then none
      else
        match destination? (skipToNext rest) with
        | none => none
        | some (url, afterUrl) =>
            let bare : Option (List Char × LinkTarget × List Char) :=
              (lineRest? afterUrl).map fun rest => (normalLabel label, ⟨cleanUrl url, ""⟩, rest)
            let beforeTitle := skipToNext afterUrl
            if beforeTitle.length = afterUrl.length then bare
            else
              match title? beforeTitle with
              | none => bare
              | some (title, afterTitle) =>
                  match lineRest? afterTitle with
                  | none => bare
                  | some rest =>
                      some (normalLabel label, ⟨cleanUrl url, cleanTitle title⟩, rest)
  | _ => none

/-- Take definitions from the front of a text, as many as `fuel` at most. -/
def takeDefinitionsFrom : Nat → References → List Char → References × List Char
  | 0, found, cs => (found, cs)
  | fuel + 1, found, cs =>
      match definition? cs with
      | none => (found, cs)
      | some (label, target, rest) =>
          let known := label = [] || found.any fun entry => entry.1 = label
          takeDefinitionsFrom fuel (if known then found else found ++ [(label, target)]) rest

/-- The definitions with those at the front of a paragraph added, and the rest of the paragraph. -/
def takeDefinitions (found : References) (cs : List Char) : References × List Char :=
  takeDefinitionsFrom (cs.length + 1) found cs

end Folio.Markdown
