import Folio.Proofs.Markdown.Scan
import Mathlib.Data.List.Nodup

/-!
# Putting tags back at once

Tags are put back one after the other, each in all the places where its word stands. Whatever text
the words have come to stand in, this is the same as one pass from the left that looks for all words at
once. For words do not overlap and none begins another, and a tag that has been put in begins and ends
with braces, which are in no word: so no word comes about where a tag meets the text around it. In a tag
a word can stand, but then it is left alone if that word has had its turn.

So the order in which tags are put back does not matter among those orders in which no tag holds the
word of one that comes after it. All other orders change some text: a tag that has been put back gets
another one put into it, and so more braces, which no later tag takes away.

Main definitions:
- `Markdown.wordAt?`, `Markdown.substitute`: one pass for all words
- `Markdown.putBack`: tags put back in any order

Main statements:
- `Markdown.replaceIn_substitute`: one word more
- `Markdown.putBack_eq`: putting back one after the other
- `Markdown.putBack_eq_self_iff`: what tags leave as it is
- `Markdown.unmask_eq_substitute`: one pass, and the orders that come to it
- `Markdown.unmask_ne_putBack_reverse`: an order that does not
-/

namespace Folio.Markdown

variable {numbered : List (List Char × Nat)} {cs tag rest : List Char} {i : Nat}

/-! ## Section 1: One pass -/

/-- The tag whose word is at the front of a text, and what follows the word. -/
def wordAt? (numbered : List (List Char × Nat)) (cs : List Char) :
    Option (List Char × List Char) :=
  numbered.findSome? fun (tag, i) => (Text.stripStart? (tagWord i) cs).map fun rest => (tag, rest)

theorem wordAt?_eq_none_iff :
    wordAt? numbered cs = none ↔ ∀ tag i, (tag, i) ∈ numbered → ¬ tagWord i <+: cs := by
  simp only [wordAt?, List.findSome?_eq_none_iff, Option.map_eq_none_iff,
    Text.stripStart?_eq_none_iff, Prod.forall]

theorem exists_of_wordAt? (found : wordAt? numbered cs = some (tag, rest)) :
    ∃ i, (tag, i) ∈ numbered ∧ cs = tagWord i ++ rest := by
  obtain ⟨⟨tag', i⟩, mem, here⟩ := List.exists_of_findSome?_eq_some found
  obtain ⟨after, strip, same⟩ := Option.map_eq_some_iff.mp here
  obtain ⟨rfl, rfl⟩ := Prod.mk.inj same
  exact ⟨i, mem, Text.stripStart?_eq_some_iff.mp strip⟩

/-- A word at the front of a text has one number, so its tag is found. -/
theorem wordAt?_eq_some_iff (distinct : (numbered.map Prod.snd).Nodup) :
    wordAt? numbered cs = some (tag, rest) ↔ ∃ i, (tag, i) ∈ numbered ∧ cs = tagWord i ++ rest := by
  refine ⟨exists_of_wordAt?, ?_⟩
  rintro ⟨i, mem, rfl⟩
  cases found : wordAt? numbered (tagWord i ++ rest) with
  | none => exact absurd (List.prefix_append _ _) (wordAt?_eq_none_iff.mp found tag i mem)
  | some result =>
    obtain ⟨tag', rest'⟩ := result
    obtain ⟨j, mem', whole⟩ := exists_of_wordAt? found
    obtain rfl : j = i := tagWord_inj_of_begins ⟨rest', whole.symm⟩
    have same : (tag', j) = (tag, j) := List.inj_on_of_nodup_map distinct mem' mem rfl
    obtain rfl := (Prod.mk.inj same).1
    rw [List.append_cancel_left whole]

theorem length_of_wordAt? (found : wordAt? numbered cs = some (tag, rest)) :
    rest.length < cs.length := by
  obtain ⟨i, -, rfl⟩ := exists_of_wordAt? found
  have positive := List.length_pos_iff.mpr (tagWord_ne_nil i)
  rw [List.length_append]
  omega

/-- One pass from the left that puts tags in the place of their words. -/
def substitute (numbered : List (List Char × Nat)) : List Char → List Char
  | [] => []
  | c :: rest =>
      match _found : wordAt? numbered (c :: rest) with
      | some (tag, after) => tag ++ substitute numbered after
      | none => c :: substitute numbered rest
termination_by cs => cs.length
decreasing_by
  · exact length_of_wordAt? (by assumption)
  · simp

theorem substitute_of_word (found : wordAt? numbered cs = some (tag, rest)) :
    substitute numbered cs = tag ++ substitute numbered rest := by
  cases cs with
  | nil => exact absurd (length_of_wordAt? found) (Nat.not_lt_zero _)
  | cons c cs =>
    rw [substitute]
    split
    · rename_i found'
      rw [found] at found'
      cases found'
      rfl
    · rename_i none
      rw [found] at none
      cases none

theorem substitute_of_none {c : Char} (none : wordAt? numbered (c :: cs) = none) :
    substitute numbered (c :: cs) = c :: substitute numbered cs := by
  rw [substitute]
  split
  · rename_i found
    rw [none] at found
    cases found
  · rfl

theorem substitute_noWords (cs : List Char) : substitute [] cs = cs := by
  induction cs with
  | nil => rw [substitute]
  | cons c cs ih => rw [substitute_of_none rfl, ih]

/-- Induction along a pass. -/
theorem pass_induction {motive : List Char → Prop} (numbered : List (List Char × Nat))
    (nil : motive [])
    (word : ∀ cs tag rest, wordAt? numbered cs = some (tag, rest) → motive rest → motive cs)
    (char : ∀ c rest, wordAt? numbered (c :: rest) = none → motive rest → motive (c :: rest))
    (cs : List Char) : motive cs := by
  fun_induction substitute numbered cs with
  | case1 => exact nil
  | case2 c rest tag after found ih => exact word _ tag after found ih
  | case3 c rest none ih => exact char c rest none ih

/-- The order in which words are looked for does not matter. -/
theorem substitute_perm {numbered' : List (List Char × Nat)} (perm : numbered.Perm numbered')
    (distinct : (numbered.map Prod.snd).Nodup) (cs : List Char) :
    substitute numbered cs = substitute numbered' cs := by
  have distinct' : (numbered'.map Prod.snd).Nodup := (perm.map Prod.snd).nodup_iff.mp distinct
  have same (cs : List Char) : wordAt? numbered cs = wordAt? numbered' cs := by
    refine Option.ext fun ⟨tag, rest⟩ => ?_
    rw [wordAt?_eq_some_iff distinct, wordAt?_eq_some_iff distinct']
    simp only [perm.mem_iff]
  induction cs using pass_induction numbered with
  | nil => rw [substitute, substitute]
  | word cs tag rest found ih =>
    have found' : wordAt? numbered' cs = some (tag, rest) := same cs ▸ found
    rw [substitute_of_word found, substitute_of_word found', ih]
  | char c rest none ih =>
    have none' : wordAt? numbered' (c :: rest) = Option.none := same (c :: rest) ▸ none
    rw [substitute_of_none none, substitute_of_none none', ih]

/-- A word alone becomes its tag. -/
theorem substitute_tagWord (distinct : (numbered.map Prod.snd).Nodup) (mem : (tag, i) ∈ numbered) :
    substitute numbered (tagWord i) = tag := by
  have found : wordAt? numbered (tagWord i) = some (tag, []) :=
    (wordAt?_eq_some_iff distinct).mpr ⟨i, mem, (List.append_nil _).symm⟩
  rw [substitute_of_word found, substitute, List.append_nil]

/-! ## Section 2: Texts beside words -/

/-- A tag ends with a closing brace. -/
theorem IsTag.exists_concat (isTag : IsTag tag) : ∃ front, tag = front ++ ['\x7d'] := by
  have closers : ∀ delimiters ∈ tagDelimiters, delimiters.2.getLast? = some '\x7d' := by decide
  obtain ⟨delimiters, isKind, content, rfl, -⟩ := isTag
  obtain ⟨more, closer⟩ := List.getLast?_eq_some_iff.mp (closers delimiters isKind)
  exact ⟨delimiters.1 ++ (content ++ more), by rw [closer]; simp⟩

theorem braces_notMem_tagWord (i : Nat) : '\x7b' ∉ tagWord i ∧ '\x7d' ∉ tagWord i := by
  have isKind : (['\x7b', '\x7b'], ['\x7d', '\x7d']) ∈ tagDelimiters := List.mem_cons_self
  exact ⟨notMem_tagWord isKind (by simp) i, notMem_tagWord isKind (by simp) i⟩

/-- A tag does not end with the beginning of a word. -/
theorem IsTag.isSealed (isTag : IsTag tag) (i : Nat) : Text.IsSealed (tagWord i) tag := by
  intro ending isEnding begins
  left
  by_contra nonempty
  -- the last brace would be in the word
  have brace : '\x7d' ∈ ending := by
    obtain ⟨front, rfl⟩ := isTag.exists_concat
    have last := isEnding.getLast nonempty
    rw [List.getLast_concat] at last
    exact last ▸ List.getLast_mem nonempty
  exact (braces_notMem_tagWord i).2 (begins.subset brace)

/-- Where no word can begin, a pass changes nothing. -/
theorem substitute_append_of_notMem {plain : List Char} (absent : 'Q' ∉ plain) (cs : List Char) :
    substitute numbered (plain ++ cs) = plain ++ substitute numbered cs := by
  induction plain with
  | nil => rfl
  | cons c plain ih =>
    rw [List.mem_cons, not_or] at absent
    have none : wordAt? numbered (c :: (plain ++ cs)) = Option.none := by
      refine wordAt?_eq_none_iff.mpr fun tag i _ begins => absent.1 ?_
      obtain ⟨letters, word, -⟩ := exists_tagWord_eq i
      rw [word] at begins
      exact (List.cons_prefix_cons.mp begins).1
    rw [List.cons_append, substitute_of_none none, ih absent.2, List.cons_append]

/-- A pass leaves words of other numbers as they are. -/
theorem substitute_append_of_other (other : i ∉ numbered.map Prod.snd) (cs : List Char) :
    substitute numbered (tagWord i ++ cs) = tagWord i ++ substitute numbered cs := by
  obtain ⟨letters, word, own⟩ := exists_tagWord_eq i
  have none : wordAt? numbered ('Q' :: (letters ++ cs)) = Option.none := by
    refine wordAt?_eq_none_iff.mpr fun tag j mem begins => other ?_
    rw [← List.cons_append, ← word] at begins
    exact tagWord_inj_of_begins begins ▸ List.mem_map_of_mem mem
  rw [word, List.cons_append, substitute_of_none none, substitute_append_of_notMem own]
  rfl

/-- The end of a word is at the front of what a pass gives only if it was at the front of the text. -/
theorem prefix_of_substitute (isTags : ∀ entry ∈ numbered, IsTag entry.1) {ending : List Char}
    (isEnding : ending <:+ tagWord i) (begins : ending <+: substitute numbered cs) :
    ending <+: cs := by
  induction cs using pass_induction numbered generalizing ending with
  | nil =>
    rw [substitute] at begins
    exact begins
  | word cs tag rest found ih =>
    cases ending with
    | nil => exact List.nil_prefix
    | cons d ending =>
      -- a tag has been put in, and its first brace is in no word
      obtain ⟨j, mem, -⟩ := exists_of_wordAt? found
      obtain ⟨more, rfl⟩ := (isTags _ mem).exists_cons
      rw [substitute_of_word found, List.cons_append] at begins
      obtain ⟨rfl, -⟩ := List.cons_prefix_cons.mp begins
      exact absurd (isEnding.subset List.mem_cons_self) (braces_notMem_tagWord i).1
  | char c rest none ih =>
    cases ending with
    | nil => exact List.nil_prefix
    | cons d ending =>
      rw [substitute_of_none none] at begins
      obtain ⟨rfl, more⟩ := List.cons_prefix_cons.mp begins
      exact List.cons_prefix_cons.mpr ⟨rfl, ih ((List.suffix_cons d ending).trans isEnding) more⟩

/-! ## Section 3: One word after the other -/

/-- To replace one more word after a pass is to look for it in the pass, if it is in none of the tags
that have been put in. -/
theorem replaceIn_substitute (distinct : (((tag, i) :: numbered).map Prod.snd).Nodup)
    (isTags : ∀ entry ∈ numbered, IsTag entry.1)
    (free : ∀ entry ∈ numbered, ¬ tagWord i <:+: entry.1) (cs : List Char) :
    Text.replaceIn (tagWord i) tag (substitute numbered cs)
      = substitute ((tag, i) :: numbered) cs := by
  have nonempty := tagWord_ne_nil i
  obtain ⟨other, distinct'⟩ := List.nodup_cons.mp distinct
  -- along the pass for all of the words
  induction cs using pass_induction ((tag, i) :: numbered) with
  | nil =>
    rw [substitute, substitute]
    exact Text.replaceIn_of_none (Text.cutAt?_nil nonempty)
  | word cs tag' rest found ih =>
    rw [substitute_of_word found, ← ih]
    obtain ⟨j, mem, rfl⟩ := exists_of_wordAt? found
    rcases List.mem_cons.mp mem with same | mem
    · -- the word itself, which the shorter pass leaves as it is
      obtain ⟨rfl, rfl⟩ := Prod.mk.inj same
      rw [substitute_append_of_other other]
      exact Text.replaceIn_of_some nonempty (Text.cutAt?_of_begins (by simp [nonempty]) rfl)
    · have found' : wordAt? numbered (tagWord j ++ rest) = some (tag', rest) :=
        (wordAt?_eq_some_iff distinct').mpr ⟨j, mem, rfl⟩
      have untouched : Text.replaceIn (tagWord i) tag tag' = tag' :=
        Text.replaceIn_of_none ((Text.cutAt?_eq_none_iff nonempty).mpr (free _ mem))
      rw [substitute_of_word found', Text.replaceIn_append nonempty ((isTags _ mem).isSealed i),
        untouched]
  | char c rest none ih =>
    have none' : wordAt? numbered (c :: rest) = Option.none :=
      wordAt?_eq_none_iff.mpr fun tag' j mem =>
        wordAt?_eq_none_iff.mp none tag' j (List.mem_cons_of_mem _ mem)
    have beginsNot : ¬ tagWord i <+: c :: substitute numbered rest := by
      rw [← substitute_of_none none']
      intro begins
      have here := prefix_of_substitute isTags (List.suffix_refl _) begins
      exact wordAt?_eq_none_iff.mp none tag i List.mem_cons_self here
    rw [substitute_of_none none, substitute_of_none none',
      Text.replaceIn_cons nonempty beginsNot, ih]

/-- Tags put back one after the other, in any order. -/
def putBack (order : List (List Char × Nat)) (s : String) : String :=
  order.foldl
    (fun s (tag, i) => Text.replaceAll (String.ofList (tagWord i)) (String.ofList tag) s) s

theorem putBack_append (before after : List (List Char × Nat)) (s : String) :
    putBack (before ++ after) s = putBack after (putBack before s) := by
  simp only [putBack, List.foldl_append]

theorem putBack_cons (entry : List Char × Nat) (order : List (List Char × Nat)) (s : String) :
    putBack (entry :: order) s
      = putBack order (String.ofList (Text.replaceIn (tagWord entry.2) entry.1 s.toList)) := by
  have nonempty : (String.ofList (tagWord entry.2)).toList ≠ [] := by
    simpa using tagWord_ne_nil entry.2
  simp only [putBack, List.foldl_cons, Text.replaceAll_eq nonempty, String.toList_ofList]

theorem unmaskFrom_eq_putBack (index : Nat) (s : String) (tags : List (List Char)) :
    unmaskFrom index s tags = putBack (tags.zipIdx index) s := by
  induction tags generalizing index s with
  | nil => rfl
  | cons tag tags ih =>
    simp only [unmaskFrom, ih, putBack, List.zipIdx_cons, List.foldl_cons]

/-- Putting tags back one after the other is one pass, if no tag holds the word of a later one. -/
theorem putBack_eq {order : List (List Char × Nat)} (distinct : (order.map Prod.snd).Nodup)
    (isTags : ∀ entry ∈ order, IsTag entry.1)
    (free : order.Pairwise fun earlier later => ¬ tagWord later.2 <:+: earlier.1) (s : String) :
    putBack order s = String.ofList (substitute order s.toList) := by
  -- on the tags that have been put back, of which the last one is one word more
  induction order using List.reverseRecOn with
  | nil =>
    rw [substitute_noWords, String.ofList_toList]
    rfl
  | append_singleton before last ih =>
    obtain ⟨tag, i⟩ := last
    have perm : (before ++ [(tag, i)]).Perm ((tag, i) :: before) :=
      List.perm_append_comm
    have distinct' := (perm.map Prod.snd).nodup_iff.mp distinct
    obtain ⟨freeBefore, -, freeLast⟩ := List.pairwise_append.mp free
    have isTagsBefore : ∀ entry ∈ before, IsTag entry.1 := fun entry mem =>
      isTags entry (List.mem_append_left _ mem)
    have freeTag : ∀ entry ∈ before, ¬ tagWord i <:+: entry.1 := fun entry mem =>
      freeLast entry mem (tag, i) (List.mem_singleton.mpr rfl)
    have whole := ih (List.nodup_cons.mp distinct').2 isTagsBefore freeBefore
    calc putBack (before ++ [(tag, i)]) s
        = String.ofList (Text.replaceIn (tagWord i) tag (putBack before s).toList) := by
          rw [putBack_append, putBack_cons]
          rfl
      _ = String.ofList (Text.replaceIn (tagWord i) tag (substitute before s.toList)) := by
          rw [whole, String.toList_ofList]
      _ = String.ofList (substitute ((tag, i) :: before) s.toList) :=
          congrArg String.ofList (replaceIn_substitute distinct' isTagsBefore freeTag s.toList)
      _ = String.ofList (substitute (before ++ [(tag, i)]) s.toList) :=
          congrArg String.ofList (substitute_perm perm distinct s.toList).symm

/-! ## Section 4: Orders -/

variable {order before after : List (List Char × Nat)}

/-- The only word that is in a word is the word itself. -/
theorem tagWord_infix_tagWord_iff {i j : Nat} : tagWord i <:+: tagWord j ↔ i = j := by
  refine ⟨fun inside => ?_, fun same => same ▸ List.infix_rfl⟩
  obtain ⟨letters, word, own⟩ := exists_tagWord_eq j
  obtain ⟨letters', word', -⟩ := exists_tagWord_eq i
  rw [word] at inside
  rcases List.infix_cons_iff.mp inside with begins | later
  · rw [← word, ← List.append_nil (tagWord j)] at begins
    exact tagWord_inj_of_begins begins
  · -- every word begins with the letter that the rest of a word lacks
    rw [word'] at later
    exact absurd (later.subset List.mem_cons_self) own

/-- Replacing a word takes no brace away, and puts some in if the word stands in the text. -/
theorem count_replaceIn (isTag : IsTag tag) (i : Nat) (cs : List Char) :
    cs.count '\x7b' ≤ (Text.replaceIn (tagWord i) tag cs).count '\x7b' ∧
      (tagWord i <:+: cs → cs.count '\x7b' < (Text.replaceIn (tagWord i) tag cs).count '\x7b') := by
  have nonempty := tagWord_ne_nil i
  have inTag : 0 < tag.count '\x7b' := by
    obtain ⟨more, rfl⟩ := isTag.exists_cons
    exact List.count_pos_iff.mpr List.mem_cons_self
  have inWord : (tagWord i).count '\x7b' = 0 :=
    List.count_eq_zero_of_not_mem (braces_notMem_tagWord i).1
  -- from one occurrence of the word to the next
  induction cs using Text.occurrence_induction nonempty with
  | free cs free =>
    rw [Text.replaceIn_of_none free]
    exact ⟨le_rfl, fun stands => absurd stands ((Text.cutAt?_eq_none_iff nonempty).mp free)⟩
  | cut cs before after cut ih =>
    obtain ⟨rfl, -⟩ := Text.eq_of_cutAt? nonempty cut
    rw [Text.replaceIn_of_some nonempty cut]
    simp only [List.count_append]
    omega

theorem count_le_putBack (isTags : ∀ entry ∈ order, IsTag entry.1) (s : String) :
    s.toList.count '\x7b' ≤ (putBack order s).toList.count '\x7b' := by
  induction order generalizing s with
  | nil => exact le_rfl
  | cons entry order ih =>
    obtain ⟨isTag, isTags⟩ := List.forall_mem_cons.mp isTags
    have others := ih isTags (String.ofList (Text.replaceIn (tagWord entry.2) entry.1 s.toList))
    rw [String.toList_ofList] at others
    rw [putBack_cons]
    exact (count_replaceIn isTag entry.2 s.toList).1.trans others

/-- Tags that are put back leave a text as it is just when none of their words stands in it. -/
theorem putBack_eq_self_iff (isTags : ∀ entry ∈ order, IsTag entry.1) {s : String} :
    putBack order s = s ↔ ∀ entry ∈ order, ¬ tagWord entry.2 <:+: s.toList := by
  induction order with
  | nil => simp [putBack]
  | cons entry order ih =>
    obtain ⟨isTag, isTags⟩ := List.forall_mem_cons.mp isTags
    rw [List.forall_mem_cons, putBack_cons]
    by_cases stands : tagWord entry.2 <:+: s.toList
    · -- braces have come in, and the other tags take none of them away
      have more := (count_replaceIn isTag entry.2 s.toList).2 stands
      have others := count_le_putBack isTags
        (String.ofList (Text.replaceIn (tagWord entry.2) entry.1 s.toList))
      rw [String.toList_ofList] at others
      refine iff_of_false (fun same => ?_) (fun free => free.1 stands)
      rw [same] at others
      omega
    · have nowhere := (Text.cutAt?_eq_none_iff (tagWord_ne_nil entry.2)).mpr stands
      rw [Text.replaceIn_of_none nowhere, String.ofList_toList, ih isTags]
      exact (and_iff_right stands).symm

/-- A word alone is left to its own tag, and then it is the turn of the tags after that one. -/
theorem putBack_tagWord (distinct : ((before ++ (tag, i) :: after).map Prod.snd).Nodup)
    (isTags : ∀ entry ∈ before, IsTag entry.1) :
    putBack (before ++ (tag, i) :: after) (String.ofList (tagWord i))
      = putBack after (String.ofList tag) := by
  have nonempty := tagWord_ne_nil i
  have others : ∀ entry ∈ before, ¬ tagWord entry.2 <:+: tagWord i := by
    intro entry mem inside
    rw [List.map_append, List.nodup_append] at distinct
    exact distinct.2.2 entry.2 (List.mem_map_of_mem mem) i (by simp)
      (tagWord_infix_tagWord_iff.mp inside)
  have untouched : putBack before (String.ofList (tagWord i)) = String.ofList (tagWord i) := by
    rw [putBack_eq_self_iff isTags, String.toList_ofList]
    exact others
  have whole : Text.replaceIn (tagWord i) tag (tagWord i) = tag := by
    have here : Text.cutAt? (tagWord i) (tagWord i) = some ([], []) :=
      Text.cutAt?_of_begins nonempty (List.append_nil _).symm
    rw [Text.replaceIn_of_some nonempty here, Text.replaceIn_of_none (Text.cutAt?_nil nonempty),
      List.nil_append, List.append_nil]
  rw [putBack_append, untouched, putBack_cons, String.toList_ofList, whole]

/-- If each word alone is given back as its tag, then no tag holds the word of one that comes after
it. -/
theorem pairwise_of_putBack (distinct : (order.map Prod.snd).Nodup)
    (isTags : ∀ entry ∈ order, IsTag entry.1)
    (back : ∀ entry ∈ order, putBack order (String.ofList (tagWord entry.2)) = String.ofList entry.1) :
    order.Pairwise fun earlier later => ¬ tagWord later.2 <:+: earlier.1 := by
  rw [List.pairwise_iff_forall_sublist]
  intro earlier later pair
  -- the order, taken apart around the earlier one of the two
  obtain ⟨begin, rest, rfl, inBegin, inRest⟩ := List.cons_sublist_iff.mp pair
  obtain ⟨before, between, rfl⟩ := List.append_of_mem inBegin
  have kept := back earlier (by simp)
  rw [List.append_assoc, List.cons_append] at distinct isTags kept
  have isTagsBefore : ∀ entry ∈ before, IsTag entry.1 := fun entry mem => isTags entry (by simp [mem])
  have isTagsAfter : ∀ entry ∈ between ++ rest, IsTag entry.1 := by
    intro entry mem
    exact isTags entry (List.mem_append_right _ (List.mem_cons_of_mem _ mem))
  rw [putBack_tagWord distinct isTagsBefore, putBack_eq_self_iff isTagsAfter,
    String.toList_ofList] at kept
  exact kept later (List.mem_append_right _ (List.singleton_sublist.mp inRest))

/-! ## Section 5: Tags of a text -/

theorem nodup_zipIdx (tags : List (List Char)) : (tags.zipIdx.map Prod.snd).Nodup := by
  rw [List.zipIdx_map_snd]
  exact List.nodup_range'

theorem pairwise_zipIdx {tags : List (List Char)}
    (free : ∀ i j tag, tags[i]? = some tag → i < j → j < tags.length → ¬ tagWord j <:+: tag) :
    tags.zipIdx.Pairwise fun earlier later => ¬ tagWord later.2 <:+: earlier.1 := by
  rw [List.pairwise_iff_getElem]
  intro i j inside inside' before
  simp only [List.getElem_zipIdx, Nat.zero_add]
  rw [List.length_zipIdx] at inside inside'
  exact free i j _ (List.getElem?_eq_getElem inside) before inside'

/-- Putting the tags of a text back into any text is one pass from the left, if no tag holds the word of
one that comes after it. The pass knows no order of the tags. To put them back in another order gives
the same whatever the text just when in that order, too, no tag holds the word of one that comes after
it: in every order, if no tag holds the word of another. -/
theorem unmask_eq_substitute {text : String}
    (free : ∀ i j tag, (mask text.toList).tags[i]? = some tag → i < j →
      j < (mask text.toList).tags.length → ¬ tagWord j <:+: tag) :
    let tags := (mask text.toList).tags
    (∀ html, unmask tags html = String.ofList (substitute tags.zipIdx html.toList)) ∧
      ∀ order, order.Perm tags.zipIdx →
        (∀ cs, substitute order cs = substitute tags.zipIdx cs) ∧
        ((∀ html, putBack order html = unmask tags html) ↔
          order.Pairwise fun earlier later => ¬ tagWord later.2 <:+: earlier.1) := by
  intro tags
  have distinct := nodup_zipIdx tags
  have isTags : ∀ entry ∈ tags.zipIdx, IsTag entry.1 := fun entry mem =>
    isTag_of_mem_mask (List.fst_mem_of_mem_zipIdx mem)
  have one (html : String) :
      unmask tags html = String.ofList (substitute tags.zipIdx html.toList) := by
    rw [unmask, unmaskFrom_eq_putBack, putBack_eq distinct isTags (pairwise_zipIdx free)]
  refine ⟨one, fun order perm => ?_⟩
  have distinct' := (perm.map Prod.snd).nodup_iff.mpr distinct
  have isTags' : ∀ entry ∈ order, IsTag entry.1 := fun entry mem =>
    isTags entry (perm.mem_iff.mp mem)
  have same := substitute_perm perm distinct'
  refine ⟨same, fun back => ?_, fun freeOrder html => ?_⟩
  · -- a word alone tells whether its tag is left as it is
    refine pairwise_of_putBack distinct' isTags' fun entry mem => ?_
    rw [back, one, String.toList_ofList, substitute_tagWord distinct (perm.mem_iff.mp mem)]
  · rw [one, putBack_eq distinct' isTags' freeOrder, same]

/-- A text with a tag that holds the word of an earlier one. -/
def wordInTag : String := "\x7b\x7b a \x7d\x7d \x7b% QUIRExSPAN0x %\x7d \x7b# b #\x7d"

theorem tags_wordInTag : (mask wordInTag.toList).tags
    = ["\x7b\x7b a \x7d\x7d".toList, "\x7b% QUIRExSPAN0x %\x7d".toList, "\x7b# b #\x7d".toList] := by
  decide +kernel

theorem wordInTag_free (i j : Nat) (tag : List Char)
    (isTag : (mask wordInTag.toList).tags[i]? = some tag) (before : i < j)
    (inside : j < (mask wordInTag.toList).tags.length) : ¬ tagWord j <:+: tag := by
  rw [tags_wordInTag] at isTag inside
  simp only [List.length_cons, List.length_nil] at inside
  obtain ⟨rfl, rfl⟩ | ⟨rfl, rfl⟩ | ⟨rfl, rfl⟩ :
      (i = 0 ∧ j = 1) ∨ (i = 0 ∧ j = 2) ∨ (i = 1 ∧ j = 2) := by omega
  all_goals
    obtain rfl := Option.some.inj isTag
    decide +kernel

/-- Words that have been moved and repeated, a word of no tag, and a tag that holds the word of an
earlier one. The last tag can as well be the first one that is put back. -/
theorem unmask_eq_substitute_moved :
    let html := "QUIRExSPAN1x QUIRExSPAN10x QUIRExSPAN2x QUIRExSPAN0x QUIRExSPAN1x"
    let page :=
      "\x7b% QUIRExSPAN0x %\x7d QUIRExSPAN10x \x7b# b #\x7d \x7b\x7b a \x7d\x7d \x7b% QUIRExSPAN0x %\x7d"
    let tags := (mask wordInTag.toList).tags
    let order := [("\x7b# b #\x7d".toList, 2), ("\x7b\x7b a \x7d\x7d".toList, 0),
      ("\x7b% QUIRExSPAN0x %\x7d".toList, 1)]
    (∀ i j tag, tags[i]? = some tag → i < j → j < tags.length → ¬ tagWord j <:+: tag) ∧
      order.Perm tags.zipIdx ∧
      (order.Pairwise fun earlier later => ¬ tagWord later.2 <:+: earlier.1) ∧
      unmask tags html = page ∧
      String.ofList (substitute tags.zipIdx html.toList) = page ∧
      putBack order html = page := by
  intro html page tags order
  obtain ⟨one, orders⟩ := unmask_eq_substitute wordInTag_free
  have perm : order.Perm tags.zipIdx := by decide +kernel
  have freeOrder : order.Pairwise fun earlier later => ¬ tagWord later.2 <:+: earlier.1 := by
    decide +kernel
  have put : unmask tags html = page := by decide +kernel
  have putOrder : putBack order html = unmask tags html := (orders order perm).2.mpr freeOrder html
  exact ⟨wordInTag_free, perm, freeOrder, put, (one html).symm.trans put, putOrder.trans put⟩

/-- The order can matter although no tag holds the word of a later one: put back after the tag that
holds its word, the first tag goes into that one as well. -/
theorem unmask_ne_putBack_reverse :
    let html := "<p>QUIRExSPAN0x QUIRExSPAN1x QUIRExSPAN2x</p>\n"
    let page := "<p>\x7b\x7b a \x7d\x7d \x7b% QUIRExSPAN0x %\x7d \x7b# b #\x7d</p>\n"
    let nested := "<p>\x7b\x7b a \x7d\x7d \x7b% \x7b\x7b a \x7d\x7d %\x7d \x7b# b #\x7d</p>\n"
    let tags := (mask wordInTag.toList).tags
    (∀ i j tag, tags[i]? = some tag → i < j → j < tags.length → ¬ tagWord j <:+: tag) ∧
      tags.zipIdx.reverse.Perm tags.zipIdx ∧
      unmask tags html = page ∧ putBack tags.zipIdx.reverse html = nested ∧
      unmask tags html ≠ putBack tags.zipIdx.reverse html := by
  intro html page nested tags
  have straight : unmask tags html = page := by decide +kernel
  have reversed : putBack tags.zipIdx.reverse html = nested := by decide +kernel
  have differ : page ≠ nested := by decide
  refine ⟨wordInTag_free, List.reverse_perm _, straight, reversed, ?_⟩
  rw [straight, reversed]
  exact differ

end Folio.Markdown
