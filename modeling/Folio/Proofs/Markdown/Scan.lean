import Folio.Proofs.Markdown.Mask

/-!
# What counts as a tag

Masking cuts a text into literals and tags. A tag reaches from an opener to the first closer of its
kind, and where an opener begins in a literal, its closer is nowhere behind it in the text. Openers can
overlap, and one without a closer can be followed by one that has its own; still every text has such a
cut, and whatever cut is found, it gives the same mask. A mask is cut into a single literal.

Main definitions:
- `Markdown.IsTag`, `Markdown.OpensTag`: what a tag is, and where one begins
- `Markdown.Cut`, `Markdown.Cut.IsScan`: literals with tags between them, and all tags found

Main statements:
- `Markdown.tagAt?_eq_some_iff`: the tag at the front of a text
- `Markdown.Cut.exists_isScan`, `Markdown.Cut.IsScan.mask_eq`: every text has a cut, and it is the mask
- `Markdown.mask_eq_iff`: masking finds all tags and nothing else
-/

namespace Folio.Markdown

/-! ## Section 1: Tags -/

/-- An opener, and what follows it up to and with the first closer of its kind. -/
def IsTag (tag : List Char) : Prop :=
  ∃ delimiters ∈ tagDelimiters, ∃ content, tag = delimiters.1 ++ (content ++ delimiters.2) ∧
    Text.StandsFirst delimiters.2 content

/-- An opener begins at the front of a text, and its closer is somewhere behind it. -/
def OpensTag (cs : List Char) : Prop :=
  ∃ delimiters ∈ tagDelimiters, ∃ inside, cs = delimiters.1 ++ inside ∧ delimiters.2 <:+: inside

theorem tagAt?_eq_none_iff_opensTag {cs : List Char} : tagAt? cs = none ↔ ¬ OpensTag cs := by
  rw [tagAt?_eq_none_iff]
  constructor
  · rintro none ⟨delimiters, isKind, inside, whole, closed⟩
    exact none delimiters isKind inside whole closed
  · intro opensNot delimiters isKind inside whole closed
    exact opensNot ⟨delimiters, isKind, inside, whole, closed⟩

theorem tagOf?_eq_some_iff {delimiters : List Char × List Char} (isKind : delimiters ∈ tagDelimiters)
    {cs tag rest : List Char} :
    tagOf? delimiters cs = some (tag, rest) ↔
      ∃ content, tag = delimiters.1 ++ (content ++ delimiters.2) ∧ cs = tag ++ rest ∧
        Text.StandsFirst delimiters.2 content := by
  have closers : ∀ delimiters ∈ tagDelimiters, delimiters.2 ≠ [] := by decide
  have closer := closers delimiters isKind
  simp only [tagOf?, Option.bind_eq_bind, Option.bind_eq_some_iff, Option.pure_def,
    Option.some.injEq, Prod.mk.injEq, Text.stripStart?_eq_some_iff]
  constructor
  · rintro ⟨inside, rfl, ⟨content, after⟩, closed, rfl, rfl⟩
    obtain ⟨rfl, first⟩ := (Text.cutAt?_eq_some_iff closer).mp closed
    exact ⟨content, by simp, by simp, first⟩
  · rintro ⟨content, rfl, rfl, first⟩
    refine ⟨content ++ (delimiters.2 ++ rest), by simp, (content, rest), ?_, by simp, rfl⟩
    exact (Text.cutAt?_eq_some_iff closer).mpr ⟨by simp, first⟩

/-- Two kinds of tags have no opener in common. -/
theorem eq_of_opener_prefix {first second : List Char × List Char} (isKind : first ∈ tagDelimiters)
    (isKind' : second ∈ tagDelimiters) {cs : List Char} (begins : first.1 <+: cs)
    (begins' : second.1 <+: cs) : first = second := by
  have lengths : ∀ first ∈ tagDelimiters, ∀ second ∈ tagDelimiters,
      first.1.length ≤ second.1.length := by decide
  have openers : ∀ first ∈ tagDelimiters, ∀ second ∈ tagDelimiters,
      first.1 <+: second.1 → first = second := by decide
  apply openers first isKind second isKind'
  exact List.prefix_of_prefix_length_le begins begins' (lengths first isKind second isKind')

/-- What is found at the front of a text is a tag, and every tag there is found. -/
theorem tagAt?_eq_some_iff {cs tag rest : List Char} :
    tagAt? cs = some (tag, rest) ↔ cs = tag ++ rest ∧ IsTag tag := by
  constructor
  · intro found
    obtain ⟨delimiters, isKind, here⟩ := List.exists_of_findSome?_eq_some found
    obtain ⟨content, isTag, whole, first⟩ := (tagOf?_eq_some_iff isKind).mp here
    exact ⟨whole, delimiters, isKind, content, isTag, first⟩
  · rintro ⟨whole, delimiters, isKind, content, isTag, first⟩
    have here := (tagOf?_eq_some_iff isKind).mpr ⟨content, isTag, whole, first⟩
    cases found : tagAt? cs with
    | none =>
      rw [tagAt?, List.findSome?_eq_none_iff] at found
      rw [found delimiters isKind] at here
      cases here
    | some result =>
      -- only one kind has its opener here
      obtain ⟨other, isKind', here'⟩ := List.exists_of_findSome?_eq_some found
      obtain ⟨content', isTag', whole', -⟩ := (tagOf?_eq_some_iff isKind').mp here'
      have same : other = delimiters := by
        have begins : delimiters.1 <+: cs := by
          rw [whole, isTag, List.append_assoc]
          exact List.prefix_append _ _
        have begins' : other.1 <+: cs := by
          rw [whole', isTag', List.append_assoc]
          exact List.prefix_append _ _
        exact eq_of_opener_prefix isKind' isKind begins' begins
      rw [same, here] at here'
      exact here'.symm

theorem OpensTag.exists_tag {cs : List Char} (opens : OpensTag cs) :
    ∃ tag rest, cs = tag ++ rest ∧ IsTag tag := by
  have found : tagAt? cs ≠ none := fun none => tagAt?_eq_none_iff_opensTag.mp none opens
  obtain ⟨⟨tag, rest⟩, here⟩ := Option.ne_none_iff_exists'.mp found
  exact ⟨tag, rest, tagAt?_eq_some_iff.mp here⟩

/-- A tag begins with an opening brace. -/
theorem IsTag.exists_cons {tag : List Char} (isTag : IsTag tag) : ∃ rest, tag = '\x7b' :: rest := by
  have openers : ∀ delimiters ∈ tagDelimiters, delimiters.1.head? = some '\x7b' := by decide
  obtain ⟨delimiters, isKind, content, rfl, -⟩ := isTag
  obtain ⟨more, opener⟩ := List.head?_eq_some_iff.mp (openers delimiters isKind)
  exact ⟨more ++ (content ++ delimiters.2), by rw [opener, List.cons_append]⟩

/-! ## Section 2: Cuts -/

/-- A text as literals with tags between them. -/
inductive Cut where
  | last (literal : List Char)
  | next (literal tag : List Char) (rest : Cut)

/-- No opener that begins in a literal has its closer in the literal or in what is behind it. -/
def IsLiteral (literal behind : List Char) : Prop :=
  ∀ ending, ending <:+ literal → ending ≠ [] → ¬ OpensTag (ending ++ behind)

namespace Cut

/-- The text that is cut. -/
def text : Cut → List Char
  | last literal => literal
  | next literal tag rest => literal ++ (tag ++ rest.text)

/-- The tags in order. -/
def tags : Cut → List (List Char)
  | last _ => []
  | next _ tag rest => tag :: rest.tags

/-- The text with words in the place of tags; `index` is the number of the first one. -/
def wordsFrom (index : Nat) : Cut → List Char
  | last literal => literal
  | next literal _ rest => literal ++ (tagWord index ++ rest.wordsFrom (index + 1))

/-- A cut with all the tags of its text, and no other tags. -/
inductive IsScan : Cut → Prop where
  | last {literal : List Char} (plain : IsLiteral literal []) : IsScan (last literal)
  | next {literal tag : List Char} {rest : Cut} (plain : IsLiteral literal (tag ++ rest.text))
      (isTag : IsTag tag) (later : rest.IsScan) : IsScan (next literal tag rest)

/-- A cut with a character more at its front. -/
def push (c : Char) : Cut → Cut
  | last literal => last (c :: literal)
  | next literal tag rest => next (c :: literal) tag rest

@[simp] theorem text_push (c : Char) (cut : Cut) : (cut.push c).text = c :: cut.text := by
  cases cut <;> rfl

end Cut

theorem isLiteral_nil (behind : List Char) : IsLiteral [] behind :=
  fun _ isEnding nonempty => absurd (List.suffix_nil.mp isEnding) nonempty

theorem isLiteral_cons_iff {c : Char} {literal behind : List Char} :
    IsLiteral (c :: literal) behind
      ↔ ¬ OpensTag (c :: (literal ++ behind)) ∧ IsLiteral literal behind := by
  constructor
  · intro plain
    refine ⟨plain _ (List.suffix_refl _) (List.cons_ne_nil _ _), fun ending isEnding => ?_⟩
    exact plain ending (isEnding.trans (List.suffix_cons c literal))
  · rintro ⟨here, later⟩ ending isEnding nonempty
    rcases List.suffix_cons_iff.mp isEnding with rfl | inside
    · exact here
    · exact later ending inside nonempty

namespace Cut

variable {cut : Cut}

theorem IsScan.push (scan : cut.IsScan) {c : Char} (opensNot : ¬ OpensTag (c :: cut.text)) :
    (cut.push c).IsScan := by
  cases scan with
  | last plain => exact .last (isLiteral_cons_iff.mpr ⟨by simpa [text] using opensNot, plain⟩)
  | next plain isTag later => exact .next (isLiteral_cons_iff.mpr ⟨opensNot, plain⟩) isTag later

/-- Every text has a cut with all its tags. -/
theorem exists_isScan (cs : List Char) : ∃ cut : Cut, cut.IsScan ∧ cut.text = cs := by
  -- on the length of the text: a tag or a character goes to the front of a cut of what is behind it
  induction length : cs.length using Nat.strong_induction_on generalizing cs with
  | _ n ih =>
    cases cs with
    | nil => exact ⟨.last [], .last (isLiteral_nil []), rfl⟩
    | cons c rest =>
      by_cases opens : OpensTag (c :: rest)
      · obtain ⟨tag, after, whole, isTag⟩ := opens.exists_tag
        have shorter : after.length < n := by
          obtain ⟨more, rfl⟩ := isTag.exists_cons
          simp only [← length, whole, List.length_append, List.length_cons]
          omega
        obtain ⟨cut, scan, rfl⟩ := ih after.length shorter after rfl
        exact ⟨.next [] tag cut, .next (isLiteral_nil _) isTag scan, whole.symm⟩
      · obtain ⟨cut, scan, rfl⟩ := ih rest.length (by simp [← length]) rest rfl
        exact ⟨cut.push c, scan.push opens, text_push c cut⟩

end Cut

/-! ## Section 3: Masks -/

variable {fuel index : Nat} {literal behind tag rest : List Char}

/-- What is in a literal stays in its place. -/
theorem maskFrom_literal (plain : IsLiteral literal behind) :
    maskFrom (literal.length + fuel) index (literal ++ behind)
      = ⟨literal ++ (maskFrom fuel index behind).text, (maskFrom fuel index behind).tags⟩ := by
  induction literal with
  | nil => simp
  | cons c literal ih =>
    obtain ⟨opensNot, later⟩ := isLiteral_cons_iff.mp plain
    have none := tagAt?_eq_none_iff_opensTag.mpr opensNot
    rw [List.length_cons, Nat.add_right_comm, List.cons_append, maskFrom, none, ite_self, ih later]
    rfl

/-- A word takes the place of a tag. -/
theorem maskFrom_tag (isTag : IsTag tag) :
    maskFrom (fuel + 1) index (tag ++ rest)
      = ⟨tagWord index ++ (maskFrom fuel (index + 1) rest).text,
          tag :: (maskFrom fuel (index + 1) rest).tags⟩ := by
  have found : tagAt? (tag ++ rest) = some (tag, rest) := tagAt?_eq_some_iff.mpr ⟨rfl, isTag⟩
  obtain ⟨more, same⟩ := isTag.exists_cons
  rw [same] at found ⊢
  rw [List.cons_append] at found ⊢
  rw [maskFrom, if_pos rfl, found]

namespace Cut

variable {cut : Cut}

theorem IsScan.maskFrom_eq (scan : cut.IsScan) (index : Nat) {fuel : Nat}
    (enough : cut.text.length ≤ fuel) :
    maskFrom fuel index cut.text = ⟨cut.wordsFrom index, cut.tags⟩ := by
  -- on the pieces, each of which leaves enough steps for those behind it
  induction scan generalizing index fuel with
  | @last literal plain =>
    obtain ⟨more, rfl⟩ := Nat.exists_eq_add_of_le enough
    have whole : maskFrom (literal.length + more) index (literal ++ []) = _ := maskFrom_literal plain
    have nothing : maskFrom more index [] = ⟨[], []⟩ := by cases more <;> rfl
    simpa [nothing, text, wordsFrom, tags] using whole
  | @next literal tag rest plain isTag later ih =>
    have longer : literal.length + 1 ≤ fuel := by
      obtain ⟨more, rfl⟩ := isTag.exists_cons
      simp only [text, List.length_append, List.length_cons] at enough
      omega
    obtain ⟨more, rfl⟩ := Nat.exists_eq_add_of_le longer
    have enough' : rest.text.length ≤ more := by
      obtain ⟨inside, rfl⟩ := isTag.exists_cons
      simp only [text, List.length_append, List.length_cons] at enough
      omega
    have order : literal.length + 1 + more = literal.length + (more + 1) := by omega
    rw [text, order, maskFrom_literal plain, maskFrom_tag isTag, ih (index + 1) enough']
    rfl

/-- A cut with all the tags of its text is what masking finds. -/
theorem IsScan.mask_eq (scan : cut.IsScan) : mask cut.text = ⟨cut.wordsFrom 0, cut.tags⟩ :=
  scan.maskFrom_eq 0 le_rfl

theorem IsScan.isTag_of_mem (scan : cut.IsScan) {tag : List Char} (mem : tag ∈ cut.tags) :
    IsTag tag := by
  induction scan with
  | last => cases mem
  | next plain isTag later ih =>
    rcases List.mem_cons.mp mem with rfl | mem
    · exact isTag
    · exact ih mem

end Cut

/-- What masking finds are tags. -/
theorem isTag_of_mem_mask {cs tag : List Char} (mem : tag ∈ (mask cs).tags) : IsTag tag := by
  obtain ⟨cut, scan, rfl⟩ := Cut.exists_isScan cs
  rw [scan.mask_eq] at mem
  exact scan.isTag_of_mem mem

/-- A text without tags is its own mask. -/
theorem mask_of_free {cs : List Char} (free : ∀ ending, ending <:+ cs → tagAt? ending = none) :
    mask cs = ⟨cs, []⟩ := by
  have plain : IsLiteral cs [] := fun ending isEnding _ => by
    rw [List.append_nil]
    exact tagAt?_eq_none_iff_opensTag.mp (free ending isEnding)
  exact Cut.IsScan.mask_eq (.last plain)

/-- Masking finds all tags of a text and nothing else: it gives what a cut gives into literals, in which
no opener is closed anywhere in the text, and tags, which reach to the first closer; words stand in the
place of the tags, by number. The mask itself has no tags. -/
theorem mask_eq_iff (cs : List Char) :
    (∀ masked, mask cs = masked ↔
      ∃ cut : Cut, cut.IsScan ∧ cut.text = cs ∧ masked = ⟨cut.wordsFrom 0, cut.tags⟩) ∧
    mask (mask cs).text = ⟨(mask cs).text, []⟩ := by
  refine ⟨fun masked => ⟨?_, ?_⟩, ?_⟩
  · rintro rfl
    obtain ⟨cut, scan, rfl⟩ := Cut.exists_isScan cs
    exact ⟨cut, scan, rfl, scan.mask_eq⟩
  · rintro ⟨cut, scan, rfl, rfl⟩
    exact scan.mask_eq
  · exact mask_of_free fun _ isEnding => (masks_mask cs).tagAt?_eq_none isEnding

/-- An opener that is not closed, and one in it that is. -/
example :
    mask "\x7b\x7b% a %\x7d \x7b#\x7d".toList
      = ⟨"\x7bQUIRExSPAN0x \x7b#\x7d".toList, ["\x7b% a %\x7d".toList]⟩ := by
  decide +kernel

end Folio.Markdown
