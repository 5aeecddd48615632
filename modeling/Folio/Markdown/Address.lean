import Folio.Markdown.Inline

/-!
# Addresses without brackets

Web and mail addresses that stand in a text and become links.

A host name needs a dot, and no underscore in its last two parts. Punctuation at the end of an
address does not belong to it, nor a closing bracket that closes nothing in it.

Main definitions:
- `Markdown.webAddress?`, `Markdown.wwwAddress?`: an address at a place in a text
- `Markdown.linkMail`: a text with its mail addresses as links
-/

namespace Folio.Markdown

/-! ## Section 1: Extent -/

/-- Whether a character can stand in a host name. -/
def isHostCharacter (c : Char) : Bool := !Text.isSpace c && !isPunctuation c

/-- The length of the host name at the front of a text. `dots` were seen so far, `before` and `last`
count the underscores in the last two parts. A backslash is passed over unless it is the last
character. -/
def hostLength? (dots before last : Nat) : List Char → Option Nat
  | [] =>
      if (before > 0 || last > 0) && dots ≤ 10 then none
      else if dots > 0 then some 0 else none
  | c :: rest =>
      if c = '\\' && !rest.isEmpty then (hostLength? dots before last rest).map (· + 1)
      else if c = '_' then (hostLength? dots before (last + 1) rest).map (· + 1)
      else if c = '.' then (hostLength? (dots + 1) last 0 rest).map (· + 1)
      else if isHostCharacter c || c = '-' then (hostLength? dots before last rest).map (· + 1)
      else if before = 0 && last = 0 && dots > 0 then some 0
      else none

/-- Whether a character at the end of an address does not belong to it. -/
def isTrailing (c : Char) : Bool := "?!.,:*_~'\"".toList.contains c

/-- How many characters an entity at the end of an address has, after its semicolon. The address is
given in reverse. -/
def entityTail (reversed : List Char) : Option Nat :=
  let name := reversed.takeWhile Char.isAlpha
  match reversed.drop name.length with
  | '&' :: _ => if name.isEmpty then none else some (name.length + 1)
  | _ => none

/-- An address in reverse without what does not belong to it. -/
def trimAddress : Nat → List Char → List Char
  | 0, reversed => reversed
  | _ + 1, [] => []
  | fuel + 1, c :: rest =>
      if isTrailing c then trimAddress fuel rest
      else if c = ';' then
        match entityTail rest with
        | some length => trimAddress fuel (rest.drop length)
        | none => trimAddress fuel rest
      else if c = ')' then
        let opening := (c :: rest).count '('
        let closing := (c :: rest).count ')'
        if closing ≤ opening then c :: rest else trimAddress fuel rest
      else c :: rest

/-- The extent of an address: what `cs` begins with, up to an angle bracket. -/
def addressExtent (cs : List Char) : List Char :=
  let cs := cs.takeWhile (· ≠ '<')
  (trimAddress (cs.length + 1) cs.reverse).reverse

/-- Whether the text of a link ends in a text and its target follows. -/
def holdsLinkEnd : List Char → Bool
  | ']' :: '(' :: _ => true
  | _ :: rest => holdsLinkEnd rest
  | [] => false

/-- The extent of a web address that `cs` begins with, up to white space. There is none where it
would reach over the end of the text of a link. -/
def webExtent? (cs : List Char) : Option (List Char) :=
  let word := cs.takeWhile fun c => !isSpacing c
  let extent := addressExtent word
  if extent.isEmpty || holdsLinkEnd word then none else some extent

/-! ## Section 2: Web addresses -/

/-- Whether an address can begin after a character. -/
def canPrecedeWww (c : Char) : Bool := isSpacing c || "*_~([".toList.contains c

/-- The address at a place where the text goes on with `cs`, without a scheme. -/
def wwwAddress? (before : Option Char) (cs : List Char) : Option (List Char) :=
  if before.any (fun c => !canPrecedeWww c) || !"www.".toList.isPrefixOf cs then none
  else
    match hostLength? 0 0 0 (cs.drop 4) with
    | none => none
    | some _ => webExtent? cs

/-- The schemes of web addresses. -/
def webSchemes : List String := ["http", "https", "ftp"]

/-- The address whose scheme ends `reversed`, the text before a colon in reverse, and which goes on
with `cs` after that colon: the scheme and the rest with the colon. -/
def webAddress? (reversed cs : List Char) : Option (List Char × List Char) :=
  let scheme := (reversed.takeWhile Char.isAlpha).reverse
  if !webSchemes.contains (String.ofList scheme) then none
  else
    match cs with
    | '/' :: '/' :: rest =>
        match hostLength? 0 0 0 rest with
        | none => none
        | some _ => (webExtent? rest).map fun extent => (scheme, ':' :: '/' :: '/' :: extent)
    | _ => none

/-! ## Section 3: Mail addresses -/

/-- Whether a character can stand in the user part of a mail address in a text. -/
def isUserCharacter (c : Char) : Bool := c.isAlphanum || c = '.' || c = '+' || c = '-' || c = '_'

/-- The host part of a mail address at the front of a text, and how many dots it has. Nothing if
another sign follows in it. -/
def mailHost? (slashes : Bool) : List Char → Option (List Char × Nat)
  | [] => some ([], 0)
  | c :: rest =>
      let more (dots : Nat) : Option (List Char × Nat) :=
        (mailHost? slashes rest).map fun (host, n) => (c :: host, n + dots)
      if c.isAlphanum then more 0
      else if c = '@' then none
      else if c = '.' && rest.head?.any Char.isAlphanum then more 1
      else if (c = '/' && slashes) || c = '-' || c = '_' then more 0
      else some ([], 0)

/-- What stands before the sign of a mail address. -/
structure MailUser where
  length : Nat := 0
  /-- Whether there is a scheme in it. -/
  schemed : Bool := false
  /-- Whether a scheme in it allows slashes in the host. -/
  slashes : Bool := false

/-- What stands before the sign of a mail address, from the text before it in reverse: characters of
a user, and colons after a scheme. -/
def mailUser : List Char → MailUser
  | [] => {}
  | c :: rest =>
      let more := mailUser rest
      let more := { more with length := more.length + 1 }
      if isUserCharacter c then more
      else if c = ':' then
        let scheme := rest.takeWhile Char.isAlpha
        if scheme = "mailto".toList.reverse then { more with schemed := true }
        else if scheme = "xmpp".toList.reverse then { more with schemed := true, slashes := true }
        else {}
      else {}

/-- The mail address around a sign: the part before it and the part from it on, and whether it has a
scheme. -/
def mailAddress? (reversed after : List Char) : Option (List Char × List Char × Bool) :=
  let user := mailUser reversed
  if user.length = 0 then none
  else
    match mailHost? user.slashes after with
    | none => none
    | some (host, dots) =>
        if host.isEmpty || dots = 0 || !(host.getLast?.any fun c => c.isAlpha || c = '.') then none
        else
          let extent := addressExtent ('@' :: host)
          if extent.isEmpty then none
          else some ((reversed.take user.length).reverse, extent, user.schemed)

/-- A text as a part, unless it is empty. -/
def textPart (cs : List Char) : List Inline := if cs.isEmpty then [] else [.text cs]

/-- A text with its mail addresses as links. The text read so far stands in reverse, and `opened`
brackets are open in it; where one is, there is no address. -/
def linkMailFrom : Nat → Int → List Char → List Char → List Inline
  | 0, _, reversed, cs => textPart (reversed.reverse ++ cs)
  | _ + 1, _, reversed, [] => textPart reversed.reverse
  | fuel + 1, opened, reversed, c :: rest =>
      let opened := if c = '[' then opened + 1 else if c = ']' then opened - 1 else opened
      match if c = '@' && opened ≤ 0 then mailAddress? reversed rest else none with
      | none => linkMailFrom fuel opened (c :: reversed) rest
      | some (user, extent, schemed) =>
          let address := user ++ extent
          let url := if schemed then address else "mailto:".toList ++ address
          textPart (reversed.drop user.length).reverse
            ++ .link ⟨String.ofList url, ""⟩ [.text address]
            :: linkMailFrom fuel 0 [] (rest.drop (extent.length - 1))

/-- A text with its mail addresses as links. -/
def linkMail (cs : List Char) : List Inline := linkMailFrom (cs.length + 1) 0 [] cs

end Folio.Markdown
