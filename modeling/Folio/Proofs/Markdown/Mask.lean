import Folio.Markdown.Mask
import Folio.Proofs.Text.Replace

/-!
# Putting masked tags back

A mask has no tags in it, since words hold no braces: an opener that is left has no closer behind
it. Tags are put back one kind of word at a time, wherever the word stands. That gives the text again,
since every word stands for its own tag alone: words begin with a letter that they do not hold again,
so none begins inside another, and a word that is none of the text is found only where it was put.

Main definition: `Markdown.Masks`, how a mask comes about, piece by piece.

Main statements:
- `Markdown.masks_mask`: what masking does
- `Markdown.Masks.not_infix`: no word is found in a mask but those that were put there
- `Markdown.Masks.tagAt?_eq_none`: no tag is left
- `Markdown.unmask_mask`: the text again
-/

namespace Folio.Markdown

/-! ## Section 1: Words -/

/-- The first letter of a word stands nowhere else in it. -/
theorem exists_tagWord_eq (index : Nat) : ∃ rest, tagWord index = 'Q' :: rest ∧ 'Q' ∉ rest := by
  refine ⟨"UIRExSPAN".toList ++ Nat.toDigits 10 index ++ ['x'], ?_, ?_⟩
  · simp [tagWord]
  · have noDigit : 'Q' ∉ Nat.toDigits 10 index := by
      intro mem
      have digit := Nat.isDigit_of_mem_toDigits (by decide) (by decide) mem
      exact absurd digit (by decide)
    simp [noDigit]

theorem tagWord_ne_nil (index : Nat) : tagWord index ≠ [] := by
  obtain ⟨rest, word, -⟩ := exists_tagWord_eq index
  simp [word]

theorem isSealed_tagWord (index : Nat) : Text.IsSealed (tagWord index) (tagWord index) := by
  obtain ⟨rest, word, own⟩ := exists_tagWord_eq index
  rw [word]
  exact Text.isSealed_self_of_notMem own

/-- The digits of a number end where a letter follows. -/
theorem takeWhile_toDigits (index : Nat) (rest : List Char) :
    (Nat.toDigits 10 index ++ 'x' :: rest).takeWhile Char.isDigit = Nat.toDigits 10 index := by
  have digits : ∀ c ∈ Nat.toDigits 10 index, c.isDigit :=
    fun c mem => Nat.isDigit_of_mem_toDigits (by decide) (by decide) mem
  rw [List.takeWhile_append_of_pos digits, List.takeWhile_cons_of_neg (by decide), List.append_nil]

/-- A word begins no other one, also not if its number begins the other number. -/
theorem tagWord_inj_of_begins {i j : Nat} {rest : List Char}
    (begins : tagWord i <+: tagWord j ++ rest) : i = j := by
  obtain ⟨after, whole⟩ := begins
  have digits : Nat.toDigits 10 i ++ 'x' :: after = Nat.toDigits 10 j ++ 'x' :: rest := by
    simpa [tagWord] using whole
  have same := congrArg (List.takeWhile Char.isDigit) digits
  rw [takeWhile_toDigits, takeWhile_toDigits] at same
  rw [← Nat.ofDigitChars_ten_toDigits (n := i), same, Nat.ofDigitChars_ten_toDigits]

/-- No character of an opener or a closer is in a word. -/
theorem notMem_tagWord {delimiters : List Char × List Char} (isKind : delimiters ∈ tagDelimiters)
    {c : Char} (mem : c ∈ delimiters.1 ++ delimiters.2) (index : Nat) : c ∉ tagWord index := by
  have isMark : c = '\x7b' ∨ c = '\x7d' ∨ c = '%' ∨ c = '#' := by
    simp only [tagDelimiters, List.mem_cons, List.not_mem_nil, or_false] at isKind
    rcases isKind with rfl | rfl | rfl
    all_goals
      simp only [List.cons_append, List.nil_append, List.mem_cons, List.not_mem_nil, or_false] at mem
      tauto
  have noDigit : c.isDigit = false := by rcases isMark with rfl | rfl | rfl | rfl <;> rfl
  have noLetter : c ∉ ['Q', 'U', 'I', 'R', 'E', 'x', 'S', 'P', 'A', 'N'] := by
    rcases isMark with rfl | rfl | rfl | rfl <;> simp
  have notInDigits : c ∉ Nat.toDigits 10 index := by
    intro inDigits
    have digit := Nat.isDigit_of_mem_toDigits (by decide) (by decide) inDigits
    simp [noDigit] at digit
  simp only [List.mem_cons, List.not_mem_nil, or_false, not_or] at noLetter
  simp [tagWord, noLetter, notInDigits]

/-! ## Section 2: Tags -/

/-- There is no tag at the front of a text just if every kind of tag lacks its opener there, or its
closer behind that. -/
theorem tagAt?_eq_none_iff {cs : List Char} :
    tagAt? cs = none ↔ ∀ delimiters ∈ tagDelimiters, ∀ inside, cs = delimiters.1 ++ inside →
      ¬ delimiters.2 <:+: inside := by
  have closers : ∀ delimiters ∈ tagDelimiters, delimiters.2 ≠ [] := by decide
  unfold tagAt?
  rw [List.findSome?_eq_none_iff]
  refine forall_congr' fun delimiters => forall_congr' fun isKind => ?_
  have closer := closers delimiters isKind
  unfold tagOf?
  constructor
  · rintro none inside rfl
    rw [Text.stripStart?_eq_some_iff.mpr rfl] at none
    cases closed : Text.cutAt? delimiters.2 inside with
    | none => exact (Text.cutAt?_eq_none_iff closer).mp closed
    | some parts => simp [closed] at none
  · intro free
    cases opened : Text.stripStart? delimiters.1 cs with
    | none => rfl
    | some inside =>
      have whole := Text.stripStart?_eq_some_iff.mp opened
      simp [(Text.cutAt?_eq_none_iff closer).mpr (free inside whole)]

/-- Tags begin with a brace. -/
theorem tagAt?_of_ne {c : Char} {rest : List Char} (other : c ≠ '\x7b') : tagAt? (c :: rest) = none := by
  refine tagAt?_eq_none_iff.mpr fun delimiters isKind inside whole => ?_
  have braces : ∀ delimiters ∈ tagDelimiters, delimiters.1.head? = some '\x7b' := by decide
  have first := congrArg List.head? whole
  rw [List.head?_append, braces delimiters isKind] at first
  exact absurd (Option.some.inj first) other

/-- A tag at the front of a text is followed by less than the text. -/
theorem eq_of_tagAt? {cs tag rest : List Char} (h : tagAt? cs = some (tag, rest)) :
    cs = tag ++ rest ∧ rest.length < cs.length := by
  obtain ⟨delimiters, mem, found⟩ := List.exists_of_findSome?_eq_some h
  have closers : ∀ delimiters ∈ tagDelimiters, delimiters.2 ≠ [] := by decide
  have closer := closers delimiters mem
  unfold tagOf? at found
  simp only [Option.bind_eq_bind, Option.bind_eq_some_iff, Option.pure_def, Option.some.injEq,
    Prod.mk.injEq] at found
  obtain ⟨inside, opened, ⟨content, after⟩, closed, rfl, rfl⟩ := found
  obtain rfl := Text.stripStart?_eq_some_iff.mp opened
  have shorter := Text.length_of_cutAt? closer closed
  obtain ⟨rfl, -⟩ := Text.eq_of_cutAt? closer closed
  refine ⟨by simp, ?_⟩
  simp only [List.length_append] at shorter ⊢
  omega

/-! ## Section 3: Masks, piece by piece -/

/-- A text and its mask: characters as they are where no tag begins, and for each tag a word, by
number. -/
inductive Masks : Nat → List Char → Masked → Prop where
  | nil (index : Nat) : Masks index [] ⟨[], []⟩
  | char {index : Nat} {rest : List Char} {masked : Masked} (c : Char)
      (noTag : tagAt? (c :: rest) = none) (later : Masks index rest masked) :
      Masks index (c :: rest) ⟨c :: masked.text, masked.tags⟩
  | tag {index : Nat} {rest : List Char} {masked : Masked} (tag : List Char)
      (later : Masks (index + 1) rest masked) :
      Masks index (tag ++ rest) ⟨tagWord index ++ masked.text, tag :: masked.tags⟩

theorem masks_maskFrom {fuel index : Nat} {cs : List Char} (enough : cs.length ≤ fuel) :
    Masks index cs (maskFrom fuel index cs) := by
  -- on the steps that are left, of which every one takes a character at least
  induction fuel generalizing index cs with
  | zero =>
    obtain rfl := List.length_eq_zero_iff.mp (Nat.le_zero.mp enough)
    exact .nil index
  | succ fuel ih =>
    cases cs with
    | nil => exact .nil index
    | cons c rest =>
      rw [List.length_cons] at enough
      unfold maskFrom
      split
      · rename_i tag after found
        split at found
        · obtain ⟨whole, shorter⟩ := eq_of_tagAt? found
          rw [whole]
          rw [List.length_cons] at shorter
          exact .tag tag (ih (by omega))
        · cases found
      · rename_i none
        have noTag : tagAt? (c :: rest) = Option.none := by
          split at none
          · exact none
          · exact tagAt?_of_ne (by assumption)
        exact .char c noTag (ih (by omega))

theorem masks_mask (cs : List Char) : Masks 0 cs (mask cs) := masks_maskFrom le_rfl

/-! ## Section 4: Where words are found -/

variable {index : Nat} {cs : List Char} {masked : Masked}

/-- The end of a word of another number is at the front of a mask only if it is at the front of the
text. -/
theorem Masks.prefix_of_suffix (masks : Masks index cs masked) {i : Nat} (earlier : i < index)
    {ending : List Char} (isEnding : ending <:+ tagWord i) (begins : ending <+: masked.text) :
    ending <+: cs := by
  induction masks generalizing ending with
  | nil => exact begins
  | char c noTag later ih =>
    cases ending with
    | nil => exact List.nil_prefix
    | cons d ending =>
      obtain ⟨rfl, more⟩ := List.cons_prefix_cons.mp begins
      exact List.cons_prefix_cons.mpr
        ⟨rfl, ih earlier ((List.suffix_cons d ending).trans isEnding) more⟩
  | @tag index rest masked tag later ih =>
    cases ending with
    | nil => exact List.nil_prefix
    | cons d ending =>
      -- an ending that begins like a word is a whole one
      obtain ⟨letters, word, own⟩ := exists_tagWord_eq i
      obtain ⟨letters', word', -⟩ := exists_tagWord_eq index
      have first : d = 'Q' := by
        have begins' := begins
        rw [word', List.cons_append] at begins'
        exact (List.cons_prefix_cons.mp begins').1
      rw [word] at isEnding
      rcases List.suffix_cons_iff.mp isEnding with whole | inside
      · rw [whole, ← word] at begins
        exact absurd (tagWord_inj_of_begins begins) (by omega)
      · exact absurd (inside.subset List.mem_cons_self) (first ▸ own)

/-- Where a first letter does not stand, nothing begins. -/
theorem infix_of_infix_append {c : Char} {token x y : List Char} (absent : c ∉ x)
    (h : c :: token <:+: x ++ y) : c :: token <:+: y := by
  induction x with
  | nil => exact h
  | cons d x ih =>
    rw [List.mem_cons, not_or] at absent
    rcases List.infix_cons_iff.mp h with begins | inside
    · exact absurd (List.cons_prefix_cons.mp begins).1 absent.1
    · exact ih absent.2 inside

/-- A word of an earlier number is found in a mask only if it is found in the text. -/
theorem Masks.not_infix (masks : Masks index cs masked) {i : Nat} (earlier : i < index)
    (free : ¬ tagWord i <:+: cs) : ¬ tagWord i <:+: masked.text := by
  induction masks with
  | nil => exact free
  | @char index rest masked c noTag later ih =>
    rw [List.infix_cons_iff, not_or] at free ⊢
    refine ⟨fun begins => free.1 ?_, ih earlier free.2⟩
    exact (Masks.char c noTag later).prefix_of_suffix earlier (List.suffix_refl _) begins
  | @tag index rest masked tag later ih =>
    obtain ⟨letters, word, own⟩ := exists_tagWord_eq i
    obtain ⟨letters', word', own'⟩ := exists_tagWord_eq index
    intro found
    -- it is no other word, begins in none, and so is found in what follows
    have inside : tagWord i <:+: masked.text := by
      rw [word', List.cons_append, List.infix_cons_iff] at found
      rcases found with begins | inside
      · rw [← List.cons_append, ← word'] at begins
        exact absurd (tagWord_inj_of_begins begins) (by omega)
      · rw [word] at inside ⊢
        exact infix_of_infix_append own' inside
    have freeRest : ¬ tagWord i <:+: rest :=
      fun inRest => free (inRest.trans (List.suffix_append tag rest).isInfix)
    exact ih (by omega) freeRest inside

/-! ## Section 5: No tag is left -/

/-- What is at the front of a mask and in no word is at the front of the text. -/
theorem Masks.of_append {plain inside : List Char} (outside : ∀ c ∈ plain, ∀ i, c ∉ tagWord i)
    (masks : Masks index cs masked) (begins : masked.text = plain ++ inside) :
    ∃ rest, cs = plain ++ rest ∧ Masks index rest ⟨inside, masked.tags⟩ := by
  -- on what is at the front: none of it begins a word, so it stands in the text as it is
  induction plain generalizing cs masked with
  | nil =>
    obtain ⟨text, tags⟩ := masked
    obtain rfl : text = inside := begins
    exact ⟨cs, rfl, masks⟩
  | cons d plain ih =>
    cases masks with
    | nil => cases begins
    | char c noTag later =>
      obtain ⟨rfl, more⟩ := List.cons.inj begins
      obtain ⟨rest, rfl, inner⟩ := ih (fun e mem => outside e (List.mem_cons_of_mem _ mem)) later more
      exact ⟨rest, rfl, inner⟩
    | tag tag later =>
      obtain ⟨letters, word, -⟩ := exists_tagWord_eq index
      rw [word] at begins
      obtain ⟨rfl, -⟩ := List.cons.inj begins
      exact absurd (word ▸ List.mem_cons_self) (outside 'Q' List.mem_cons_self index)

/-- What is found in a mask and in no word is found in the text. -/
theorem Masks.infix_of_outside {plain : List Char} (outside : ∀ c ∈ plain, ∀ i, c ∉ tagWord i)
    (masks : Masks index cs masked) (found : plain <:+: masked.text) : plain <:+: cs := by
  cases plain with
  | nil => exact List.nil_infix
  | cons d plain =>
    induction masks with
    | nil => exact found
    | @char index rest masked c noTag later ih =>
      rcases List.infix_cons_iff.mp found with ⟨inside, begins⟩ | inside
      · obtain ⟨rest', whole, -⟩ := (Masks.char c noTag later).of_append outside begins.symm
        rw [whole]
        exact (List.prefix_append _ _).isInfix
      · exact (ih inside).trans (List.suffix_cons c rest).isInfix
    | @tag index rest masked tag later ih =>
      have inside := infix_of_infix_append (outside d List.mem_cons_self index) found
      exact (ih inside).trans (List.suffix_append tag rest).isInfix

/-- Before an end without braces, no more tags begin than behind it. -/
theorem tagAt?_of_suffix_append {before after rest : List Char} (plain : '\x7b' ∉ before)
    (later : ∀ rest, rest <:+ after → tagAt? rest = none) (isEnd : rest <:+ before ++ after) :
    tagAt? rest = none := by
  induction before with
  | nil => exact later rest isEnd
  | cons c before ih =>
    rw [List.mem_cons, not_or] at plain
    rcases List.suffix_cons_iff.mp isEnd with rfl | inside
    · exact tagAt?_of_ne (Ne.symm plain.1)
    · exact ih plain.2 inside

/-- No tag begins anywhere in a mask: an opener there has no closer behind it in the text. -/
theorem Masks.tagAt?_eq_none (masks : Masks index cs masked) {rest : List Char}
    (isEnd : rest <:+ masked.text) : tagAt? rest = none := by
  induction masks generalizing rest with
  | nil =>
    obtain rfl := List.suffix_nil.mp isEnd
    rfl
  | @char index cs masked c noTag later ih =>
    rcases List.suffix_cons_iff.mp isEnd with rfl | inLater
    · refine tagAt?_eq_none_iff.mpr fun delimiters isKind inside whole closed => ?_
      have outside (d : Char) (mem : d ∈ delimiters.1 ++ delimiters.2) (i : Nat) : d ∉ tagWord i :=
        notMem_tagWord isKind mem i
      obtain ⟨content, opened, inner⟩ := (Masks.char c noTag later).of_append
        (fun d mem => outside d (List.mem_append_left _ mem)) whole
      refine tagAt?_eq_none_iff.mp noTag delimiters isKind content opened ?_
      exact inner.infix_of_outside (fun d mem => outside d (List.mem_append_right _ mem)) closed
    · exact ih inLater
  | @tag index cs masked tag later ih =>
    have isKind : (['\x7b', '\x7b'], ['\x7d', '\x7d']) ∈ tagDelimiters := List.mem_cons_self
    have noBrace : '\x7b' ∉ tagWord index := notMem_tagWord isKind List.mem_cons_self index
    exact tagAt?_of_suffix_append noBrace (fun _ => ih) isEnd

/-! ## Section 6: Putting tags back -/

/-- Put one tag back where its word stands alone. -/
theorem replaceAll_tagWord {before after : List Char} (tag : List Char)
    (freeBefore : ¬ tagWord index <:+: before) (freeAfter : ¬ tagWord index <:+: after) :
    Text.replaceAll (String.ofList (tagWord index)) (String.ofList tag)
        (String.ofList (before ++ (tagWord index ++ after)))
      = String.ofList (before ++ tag ++ after) := by
  rw [Text.replaceAll_eq (by simpa using tagWord_ne_nil index)]
  simp only [String.toList_ofList]
  rw [Text.replaceIn_append_token (tagWord_ne_nil index) (isSealed_tagWord index) freeBefore freeAfter]

/-- Behind a text that has been put together again, tags are put back in the rest of its mask. -/
theorem Masks.unmaskFrom_eq (masks : Masks index cs masked) (before : List Char)
    (free : ∀ i, index ≤ i → i < index + masked.tags.length → ¬ tagWord i <:+: before ++ cs) :
    unmaskFrom index (String.ofList (before ++ masked.text)) masked.tags
      = String.ofList (before ++ cs) := by
  -- on the pieces, which go over to what is before them one by one
  induction masks generalizing before with
  | nil => rfl
  | char c noTag later ih =>
    have step := ih (before ++ [c]) (by simpa using free)
    simpa using step
  | @tag index rest masked tag later ih =>
    have freeHere : ¬ tagWord index <:+: before ++ (tag ++ rest) :=
      free index le_rfl (by simp)
    have freeBefore : ¬ tagWord index <:+: before :=
      fun found => freeHere (found.trans (List.prefix_append before _).isInfix)
    have freeRest : ¬ tagWord index <:+: rest := by
      intro found
      rw [← List.append_assoc] at freeHere
      exact freeHere (found.trans (List.suffix_append (before ++ tag) rest).isInfix)
    have freeLater (i : Nat) (least : index + 1 ≤ i) (most : i < index + 1 + masked.tags.length) :
        ¬ tagWord i <:+: before ++ tag ++ rest := by
      rw [List.append_assoc]
      exact free i (by omega) (by rw [List.length_cons]; omega)
    rw [unmaskFrom, replaceAll_tagWord tag freeBefore (later.not_infix (Nat.lt_succ_self index) freeRest),
      ih (before ++ tag) freeLater, List.append_assoc]

/-- A mask has no tags left in it, and putting the tags of the text back gives the text again, if it
holds none of the words that stand for them. -/
theorem unmask_mask (text : String) :
    (∀ rest, rest <:+ (mask text.toList).text → tagAt? rest = none) ∧
      ((∀ i < (mask text.toList).tags.length, ¬ tagWord i <:+: text.toList) →
        unmask (mask text.toList).tags (String.ofList (mask text.toList).text) = text) := by
  have masks := masks_mask text.toList
  refine ⟨fun rest isEnd => masks.tagAt?_eq_none isEnd, fun free => ?_⟩
  have whole := masks.unmaskFrom_eq [] fun i _ most => free i (by omega)
  rw [List.nil_append, List.nil_append, String.ofList_toList] at whole
  exact whole

/-- Tags next to each other, with what a word begins with before them and what it ends with after. -/
theorem unmask_mask_between_halves :
    let text := "QUIRExSPAN\x7b\x7b x \x7d\x7d\x7b% y %\x7d1x \x7b\x7b"
    (∀ i < (mask text.toList).tags.length, ¬ tagWord i <:+: text.toList) ∧
      (mask text.toList).tags.length = 2 ∧
      unmask (mask text.toList).tags (String.ofList (mask text.toList).text) = text := by
  intro text
  have free : ∀ i < (mask text.toList).tags.length, ¬ tagWord i <:+: text.toList := by
    decide +kernel
  exact ⟨free, by decide +kernel, (unmask_mask text).2 free⟩

/-- A word of the text itself is taken for one that stands for a tag. -/
example :
    let masked := mask "QUIRExSPAN0x \x7b\x7b x \x7d\x7d".toList
    unmask masked.tags (String.ofList masked.text) = "\x7b\x7b x \x7d\x7d \x7b\x7b x \x7d\x7d" := by
  decide +kernel

end Folio.Markdown
