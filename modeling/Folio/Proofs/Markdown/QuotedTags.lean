import Folio.Proofs.Markdown.Scan

/-!
# Tags with quoted strings

The template engine reads a tag token by token, and to it a quoted string is one token, whatever is in
it. Masking looks for the first closer instead. The two find the same end of a tag just if no quoted
string of the tag holds the closer: outside of strings there are no braces, and a closer cannot begin
in a string and end behind it. So the tags of a text are masked as the engine reads them just if none
of them quotes its own closer; a single one that does is cut short.

Main definitions:
- `Quoted`, `TagPiece`, `EngineTag`: a tag as the engine reads it
- `SourcePart`: literals and tags, one after the other
- `EngineTag.QuotesCloser`: the closer is in a string

Main statements:
- `isTag_text_iff`: when masking finds the end of a tag
- `mask_textOf_iff`: when masking finds all tags
-/

namespace Folio

/-! ## Section 1: Where a token stands -/

namespace Text

variable {token before x y : List Char} {c : Char}

theorem not_infix_dropLast (nonempty : token ≠ []) : ¬ token <:+: token.dropLast := by
  intro found
  have size := List.length_pos_iff.mpr nonempty
  have le := found.length_le
  rw [List.length_dropLast] at le
  omega

theorem standsFirst_nil (token : List Char) : StandsFirst token [] := by
  intro earlier begins
  have le := begins.length_le
  rw [List.length_append, List.nil_append] at le
  exact List.length_eq_zero_iff.mp (by omega)

/-- A token stands for the first time behind a text if it is not found before its last character. -/
theorem standsFirst_iff_not_infix (nonempty : token ≠ []) :
    StandsFirst token before ↔ ¬ token <:+: before ++ token.dropLast := by
  induction before with
  | nil => exact iff_of_true (standsFirst_nil token) (not_infix_dropLast nonempty)
  | cons c before ih =>
    -- the last character is too far behind to count for a token at the front
    have whole : c :: (before ++ token)
        = (c :: (before ++ token.dropLast)) ++ [token.getLast nonempty] := by
      simp [List.dropLast_append_getLast]
    have front : token <+: c :: (before ++ token) ↔ token <+: c :: (before ++ token.dropLast) := by
      constructor
      · intro begins
        refine List.prefix_of_prefix_length_le begins (whole ▸ List.prefix_append ..) ?_
        simp only [List.length_cons, List.length_append, List.length_dropLast]
        omega
      · intro begins
        rw [whole]
        exact begins.trans (List.prefix_append ..)
    rw [standsFirst_cons_iff, ih, front, List.cons_append, List.infix_cons_iff, not_or]

/-- A token that begins a text ends before a character that is not in it. -/
theorem prefix_of_prefix_append_cons (absent : c ∉ token) (begins : token <+: x ++ c :: y) :
    token <+: x := by
  induction x generalizing token with
  | nil =>
    cases token with
    | nil => exact List.nil_prefix
    | cons d token =>
      obtain ⟨rfl, -⟩ := List.cons_prefix_cons.mp begins
      exact absurd List.mem_cons_self absent
  | cons d x ih =>
    cases token with
    | nil => exact List.nil_prefix
    | cons e token =>
      obtain ⟨rfl, more⟩ := List.cons_prefix_cons.mp begins
      rw [List.mem_cons, not_or] at absent
      exact List.cons_prefix_cons.mpr ⟨rfl, ih absent.2 more⟩

/-- A token is on one side of a character that is not in it. -/
theorem infix_append_cons_iff (absent : c ∉ token) :
    token <:+: x ++ c :: y ↔ token <:+: x ∨ token <:+: y := by
  constructor
  · intro found
    induction x with
    | nil =>
      rcases List.infix_cons_iff.mp found with begins | inside
      · exact .inl (prefix_of_prefix_append_cons absent begins).isInfix
      · exact .inr inside
    | cons d x ih =>
      rcases List.infix_cons_iff.mp found with begins | inside
      · exact .inl (prefix_of_prefix_append_cons absent begins).isInfix
      · rcases ih inside with inFront | behind
        · exact .inl (inFront.trans (List.suffix_cons d x).isInfix)
        · exact .inr behind
  · rintro (inFront | behind)
    · exact inFront.trans (List.prefix_append x (c :: y)).isInfix
    · exact behind.trans ((List.suffix_cons c y).trans (List.suffix_append x (c :: y))).isInfix

end Text

namespace Markdown

/-! ## Section 2: Tags as the engine reads them -/

/-- A string in quotes, in one line and without escapes. -/
structure Quoted where
  quote : Char
  inside : List Char
  isQuote : quote = '"' ∨ quote = '\''
  plain : ∀ c ∈ inside, c ≠ quote ∧ c ≠ '\\' ∧ c ≠ '\n'

/-- The text of a string, with its quotes. -/
def Quoted.text (string : Quoted) : List Char := string.quote :: (string.inside ++ [string.quote])

/-- The characters that cannot stand in a tag by themselves. -/
def tagMarks : List Char := ['"', '\'', '\x7b', '\x7d', '%', '#']

/-- A piece of a tag: a character that is no mark, or a string. -/
inductive TagPiece where
  | char (c : Char) (noMark : c ∉ tagMarks)
  | quoted (string : Quoted)

/-- The text of a piece. -/
def TagPiece.text : TagPiece → List Char
  | .char c _ => [c]
  | .quoted string => string.text

/-- A tag as the engine reads it. -/
inductive EngineTag where
  /-- An expression whose value is shown. -/
  | output (pieces : List TagPiece)
  /-- A statement. -/
  | statement (pieces : List TagPiece)
  /-- A comment, which ends where it is closed for the first time. -/
  | comment (content : List Char) (unclosed : ¬ ['#', '\x7d'] <:+: content)

namespace EngineTag

/-- The opener and the closer of a tag. -/
def delimiters : EngineTag → List Char × List Char
  | .output _ => (['\x7b', '\x7b'], ['\x7d', '\x7d'])
  | .statement _ => (['\x7b', '%'], ['%', '\x7d'])
  | .comment .. => (['\x7b', '#'], ['#', '\x7d'])

/-- The pieces of a tag; a comment has none. -/
def pieces : EngineTag → List TagPiece
  | .output pieces | .statement pieces => pieces
  | .comment .. => []

/-- What is between the opener and the closer of a tag. -/
def content : EngineTag → List Char
  | .output pieces | .statement pieces => pieces.flatMap TagPiece.text
  | .comment content _ => content

/-- The text of a tag. -/
def text (tag : EngineTag) : List Char :=
  tag.delimiters.1 ++ (tag.content ++ tag.delimiters.2)

/-- The closer of a tag stands in one of its strings. -/
def QuotesCloser (tag : EngineTag) : Prop :=
  ∃ string, .quoted string ∈ tag.pieces ∧ tag.delimiters.2 <:+: string.inside

theorem delimiters_mem (tag : EngineTag) : tag.delimiters ∈ tagDelimiters := by
  cases tag <;> simp [delimiters, tagDelimiters]

end EngineTag

/-! ## Section 3: The end of a tag -/

/-- A closer made of marks other than quotes is found in pieces and what follows them, before its last
character, just if it is found in a string. -/
theorem infix_pieces_iff (token : List Char) (nonempty : token ≠ [])
    (marks : ∀ c ∈ token, c ∈ tagMarks) (noQuotes : ∀ c ∈ token, c ≠ '"' ∧ c ≠ '\'')
    (pieces : List TagPiece) :
    token <:+: pieces.flatMap TagPiece.text ++ token.dropLast
      ↔ ∃ string, .quoted string ∈ pieces ∧ token <:+: string.inside := by
  -- on the pieces, between which no closer can stand
  induction pieces with
  | nil => simpa using Text.not_infix_dropLast nonempty
  | cons piece rest ih =>
    have empty : ¬ token <:+: [] := fun found => nonempty (List.infix_nil.mp found)
    cases piece with
    | char c noMark =>
      have absent : c ∉ token := fun mem => noMark (marks c mem)
      have split : token <:+: [] ++ c :: (rest.flatMap TagPiece.text ++ token.dropLast) ↔ _ :=
        Text.infix_append_cons_iff absent
      rw [List.nil_append, ih, or_iff_right empty] at split
      simpa [TagPiece.text] using split
    | quoted string =>
      have absent : string.quote ∉ token := by
        intro mem
        obtain ⟨noDouble, noSingle⟩ := noQuotes _ mem
        exact string.isQuote.elim noDouble noSingle
      -- both quotes are between what can hold the closer
      have opened : token <:+: [] ++ string.quote :: (string.inside ++ string.quote
            :: (rest.flatMap TagPiece.text ++ token.dropLast)) ↔ _ :=
        Text.infix_append_cons_iff absent
      rw [List.nil_append, or_iff_right empty, Text.infix_append_cons_iff absent, ih] at opened
      simp only [List.flatMap_cons, TagPiece.text, Quoted.text, List.cons_append, List.append_assoc,
        List.nil_append, opened, List.mem_cons, TagPiece.quoted.injEq,
        or_and_right, exists_or, exists_eq_left]

/-- The content of a comment holds no closer, also not one that ends behind it. -/
theorem not_infix_comment {content : List Char} (unclosed : ¬ ['#', '\x7d'] <:+: content) :
    ¬ ['#', '\x7d'] <:+: content ++ ['#'] := by
  intro found
  rcases List.infix_concat_iff.mp found with ending | inside
  · -- what ends in the opening mark of a closer is no closer
    obtain ⟨front, same⟩ := ending
    have last := congrArg List.getLast? same
    simp at last
  · exact unclosed inside

/-- What the engine reads as a tag is one that masking finds just if it does not quote its closer. -/
theorem isTag_text_iff (tag : EngineTag) : IsTag tag.text ↔ ¬ tag.QuotesCloser := by
  have first : IsTag tag.text ↔ Text.StandsFirst tag.delimiters.2 tag.content := by
    constructor
    · rintro ⟨delimiters, isKind, content, same, first⟩
      -- only one kind of tag has this opener
      have begins : tag.delimiters.1 <+: tag.text := List.prefix_append ..
      have begins' : delimiters.1 <+: tag.text := same ▸ List.prefix_append ..
      obtain rfl := eq_of_opener_prefix isKind tag.delimiters_mem begins' begins
      have inside := List.append_cancel_right (List.append_cancel_left same)
      rwa [inside]
    · intro first
      exact ⟨tag.delimiters, tag.delimiters_mem, tag.content, rfl, first⟩
  have nonempty : tag.delimiters.2 ≠ [] := by cases tag <;> simp [EngineTag.delimiters]
  rw [first, Text.standsFirst_iff_not_infix nonempty, not_iff_not]
  cases tag with
  | output pieces =>
    exact infix_pieces_iff ['\x7d', '\x7d'] (by simp) (by simp [tagMarks]) (by simp) pieces
  | statement pieces =>
    exact infix_pieces_iff ['%', '\x7d'] (by simp) (by simp [tagMarks]) (by simp) pieces
  | comment content unclosed =>
    refine iff_of_false (not_infix_comment unclosed) ?_
    rintro ⟨string, mem, -⟩
    cases mem

/-! ## Section 4: Texts of literals and tags -/

/-- A part of a text: a literal without braces, or a tag. -/
inductive SourcePart where
  | literal (text : List Char) (noOpener : '\x7b' ∉ text) (noCloser : '\x7d' ∉ text)
  | tag (tag : EngineTag)

namespace SourcePart

/-- The text of a part. -/
def text : SourcePart → List Char
  | .literal text .. => text
  | .tag read => read.text

/-- The tag that a part is. -/
def tag? : SourcePart → Option EngineTag
  | .literal .. => none
  | .tag read => some read

end SourcePart

/-- The text of parts, one after the other. -/
def textOf (parts : List SourcePart) : List Char := parts.flatMap SourcePart.text

/-- The tags among parts. -/
def tagsOf (parts : List SourcePart) : List EngineTag := parts.filterMap SourcePart.tag?

/-- Parts as a cut of their text: what is between two tags is one literal. -/
def cutOf : List SourcePart → Cut
  | [] => .last []
  | .literal text .. :: rest => text.foldr Cut.push (cutOf rest)
  | .tag tag :: rest => .next [] tag.text (cutOf rest)

namespace Cut

variable {cut : Cut}

@[simp] theorem tags_push (c : Char) (cut : Cut) : (cut.push c).tags = cut.tags := by
  cases cut <;> rfl

theorem text_foldr_push (literal : List Char) (cut : Cut) :
    (literal.foldr push cut).text = literal ++ cut.text := by
  induction literal with
  | nil => rfl
  | cons c rest ih => rw [List.foldr_cons, text_push, ih, List.cons_append]

theorem tags_foldr_push (literal : List Char) (cut : Cut) :
    (literal.foldr push cut).tags = cut.tags := by
  induction literal with
  | nil => rfl
  | cons c rest ih => rw [List.foldr_cons, tags_push, ih]

/-- No tag begins in a literal without opening braces. -/
theorem IsScan.foldr_push (scan : cut.IsScan) {literal : List Char} (noOpener : '\x7b' ∉ literal) :
    (literal.foldr Cut.push cut).IsScan := by
  induction literal with
  | nil => exact scan
  | cons c rest ih =>
    rw [List.mem_cons, not_or] at noOpener
    rw [List.foldr_cons]
    exact (ih noOpener.2).push (tagAt?_eq_none_iff_opensTag.mp (tagAt?_of_ne (Ne.symm noOpener.1)))

end Cut

theorem text_cutOf (parts : List SourcePart) : (cutOf parts).text = textOf parts := by
  induction parts with
  | nil => rfl
  | cons part rest ih =>
    cases part with
    | literal text => simp [cutOf, Cut.text_foldr_push, ih, textOf, SourcePart.text]
    | tag tag => simp [cutOf, Cut.text, ih, textOf, SourcePart.text]

theorem tags_cutOf (parts : List SourcePart) :
    (cutOf parts).tags = (tagsOf parts).map EngineTag.text := by
  induction parts with
  | nil => rfl
  | cons part rest ih =>
    cases part with
    | literal text =>
      rw [tagsOf, List.filterMap_cons_none (by rfl), ← tagsOf, ← ih, cutOf, Cut.tags_foldr_push]
    | tag tag => simp [cutOf, Cut.tags, ih, tagsOf, SourcePart.tag?]

theorem isScan_cutOf {parts : List SourcePart} (isTag : ∀ tag ∈ tagsOf parts, IsTag tag.text) :
    (cutOf parts).IsScan := by
  induction parts with
  | nil => exact .last (isLiteral_nil [])
  | cons part rest ih =>
    cases part with
    | literal text noOpener =>
      have later := ih (by simpa [tagsOf, SourcePart.tag?] using isTag)
      exact later.foldr_push noOpener
    | tag tag =>
      have split : IsTag tag.text ∧ ∀ tag ∈ tagsOf rest, IsTag tag.text := by
        simpa [tagsOf, SourcePart.tag?] using isTag
      exact .next (isLiteral_nil _) split.1 (ih split.2)

/-- A text of literals and tags: masking finds exactly its tags just if none of them quotes its own
closer, and then words stand in the place of the tags and nowhere else. -/
theorem mask_textOf_iff (parts : List SourcePart) :
    ((mask (textOf parts)).tags = (tagsOf parts).map EngineTag.text
        ↔ ∀ tag ∈ tagsOf parts, ¬ tag.QuotesCloser)
      ∧ (mask (textOf parts)
          = ⟨(cutOf parts).wordsFrom 0, (tagsOf parts).map EngineTag.text⟩
        ↔ ∀ tag ∈ tagsOf parts, ¬ tag.QuotesCloser) := by
  have found (unclosed : ∀ tag ∈ tagsOf parts, ¬ tag.QuotesCloser) : mask (textOf parts)
      = ⟨(cutOf parts).wordsFrom 0, (tagsOf parts).map EngineTag.text⟩ := by
    have scan := isScan_cutOf fun tag mem => (isTag_text_iff tag).mpr (unclosed tag mem)
    rw [← text_cutOf, ← tags_cutOf]
    exact scan.mask_eq
  have needed (same : (mask (textOf parts)).tags = (tagsOf parts).map EngineTag.text) :
      ∀ tag ∈ tagsOf parts, ¬ tag.QuotesCloser := by
    -- whatever masking finds ends at its first closer
    intro tag mem
    have inMask : tag.text ∈ (mask (textOf parts)).tags := by
      rw [same]
      exact List.mem_map_of_mem mem
    exact (isTag_text_iff tag).mp (isTag_of_mem_mask inMask)
  refine ⟨⟨needed, fun unclosed => ?_⟩, ⟨fun same => needed ?_, found⟩⟩
  · rw [found unclosed]
  · rw [same]

/-- A tag that quotes its closer is cut short. -/
example :
    (mask "\x7b\x7b \"\x7d\x7d\" \x7d\x7d".toList).tags = ["\x7b\x7b \"\x7d\x7d".toList] := by
  decide +kernel

end Markdown

end Folio
