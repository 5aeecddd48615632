import Folio.Text.Split

/-!
# Masked tags

The tags of a template stand in a text that a reader of another format takes as its own. So each of
them is replaced by a word that means nothing to that reader, and put back afterwards.

A tag reaches from its opener to the first closer of its kind. An opener without a closer is text.

Main definitions:
- `Markdown.Masked`, `Markdown.mask`: a text without its tags, and the tags
- `Markdown.unmask`: a text with its tags again
-/

namespace Folio.Markdown

/-! ## Section 1: Tags -/

/-- The opener and the closer of each kind of tag. -/
def tagDelimiters : List (List Char × List Char) :=
  [(['\x7b', '\x7b'], ['\x7d', '\x7d']), (['\x7b', '%'], ['%', '\x7d']), (['\x7b', '#'], ['#', '\x7d'])]

/-- The tag of one kind at the front of a text, and what follows it. -/
def tagOf? (delimiters : List Char × List Char) (cs : List Char) : Option (List Char × List Char) := do
  let inside ← Text.stripStart? delimiters.1 cs
  let (content, rest) ← Text.cutAt? delimiters.2 inside
  pure (delimiters.1 ++ content ++ delimiters.2, rest)

/-- The tag at the front of a text, and what follows it. -/
def tagAt? (cs : List Char) : Option (List Char × List Char) :=
  tagDelimiters.findSome? fun delimiters => tagOf? delimiters cs

/-! ## Section 2: Masks -/

/-- A text without its tags, and the tags in order. -/
structure Masked where
  text : List Char
  tags : List (List Char)
deriving DecidableEq, Inhabited

/-- The word that stands for a tag. -/
def tagWord (index : Nat) : List Char := ("QUIRExSPAN" ++ toString index ++ "x").toList

/-- Mask the tags of a text; `index` is the number of the first one. Each step takes a character, so
their number bounds the steps. -/
def maskFrom : Nat → Nat → List Char → Masked
  | 0, _, cs => ⟨cs, []⟩
  | _ + 1, _, [] => ⟨[], []⟩
  | fuel + 1, index, c :: rest =>
      match if c = '\x7b' then tagAt? (c :: rest) else none with
      | some (tag, after) =>
          let masked := maskFrom fuel (index + 1) after
          ⟨tagWord index ++ masked.text, tag :: masked.tags⟩
      | none =>
          let masked := maskFrom fuel index rest
          ⟨c :: masked.text, masked.tags⟩

/-- Mask the tags of a text. -/
def mask (cs : List Char) : Masked := maskFrom cs.length 0 cs

/-- Put tags back, one after the other, wherever the words for them stand. -/
def unmaskFrom (index : Nat) (s : String) : List (List Char) → String
  | [] => s
  | tag :: rest =>
      unmaskFrom (index + 1)
        (Text.replaceAll (String.ofList (tagWord index)) (String.ofList tag) s) rest

/-- Put tags back. -/
def unmask (tags : List (List Char)) (s : String) : String := unmaskFrom 0 s tags

end Folio.Markdown
