import Folio.Text.Split
import Mathlib.Data.List.Infix

/-!
# Replacing occurrences of a text

Occurrences of a token are replaced from the left. A text that does not end with the beginning of a
token can be replaced in by itself, whatever follows it: no occurrence begins in it and ends behind
it. If this holds of all segments between the occurrences, replacing in a text that has been put in
is the same as replacing before it is put in.

Main definitions:
- `Text.segmentsAround`, `Text.replaceIn`: the segments around a token, and replacing it
- `Text.StandsFirst`: where a token occurs first
- `Text.IsSealed`: a text that does not end with the beginning of a token

Main statements:
- `Text.cutAt?_eq_some_iff`: cutting at the first occurrence
- `Text.replaceIn_append`: a sealed text and what follows it are replaced in one by one
- `Text.replaceIn_replaceIn`: replacing in what has been put in
- `Text.replaceAll_eq`: replacing in texts is replacing in their characters
- `Text.replaceIn_append_token`: replacing a token that stands once
-/

namespace Folio.Text

variable {token new x y cs before after : List Char}

/-! ## Section 1: The first occurrence -/

theorem stripStart?_eq_some_iff {rest : List Char} :
    stripStart? token cs = some rest ↔ cs = token ++ rest := by
  induction token generalizing cs with
  | nil => simp [stripStart?, eq_comm]
  | cons p ps ih =>
    cases cs with
    | nil => simp [stripStart?]
    | cons c cs =>
      by_cases same : p = c
      · subst same
        simp [stripStart?, ih]
      · simp [stripStart?, same, Ne.symm same]

theorem stripStart?_eq_none_iff : stripStart? token cs = none ↔ ¬ token <+: cs := by
  constructor
  · rintro none ⟨rest, whole⟩
    rw [stripStart?_eq_some_iff.mpr whole.symm] at none
    cases none
  · intro beginsNot
    by_contra begins
    obtain ⟨rest, strip⟩ := Option.ne_none_iff_exists'.mp begins
    exact beginsNot ⟨rest, (stripStart?_eq_some_iff.mp strip).symm⟩

theorem cutAt?_nil (nonempty : token ≠ []) : cutAt? token [] = none := by
  cases token with
  | nil => exact absurd rfl nonempty
  | cons p ps => rfl

theorem cutAt?_of_begins {rest : List Char} (nonempty : cs ≠ []) (begins : cs = token ++ rest) :
    cutAt? token cs = some ([], rest) := by
  cases cs with
  | nil => exact absurd rfl nonempty
  | cons c cs => rw [cutAt?, stripStart?_eq_some_iff.mpr begins]

theorem cutAt?_cons {c : Char} (beginsNot : ¬ token <+: c :: cs) :
    cutAt? token (c :: cs) = (cutAt? token cs).map fun (before, after) => (c :: before, after) := by
  rw [cutAt?, stripStart?_eq_none_iff.mpr beginsNot]

/-- The text is what is before the first occurrence, the token, and what is after it. Before it, the
token does not occur. -/
theorem eq_of_cutAt? (nonempty : token ≠ []) (h : cutAt? token cs = some (before, after)) :
    cs = before ++ token ++ after ∧ cutAt? token before = none := by
  induction cs generalizing before with
  | nil =>
    rw [cutAt?_nil nonempty] at h
    cases h
  | cons c cs ih =>
    by_cases begins : token <+: c :: cs
    · obtain ⟨rest, whole⟩ := begins
      rw [cutAt?_of_begins (List.cons_ne_nil c cs) whole.symm] at h
      obtain ⟨rfl, rfl⟩ := Prod.mk.inj (Option.some.inj h)
      exact ⟨by simpa using whole.symm, cutAt?_nil nonempty⟩
    · rw [cutAt?_cons begins] at h
      obtain ⟨⟨b, a⟩, cut, same⟩ := Option.map_eq_some_iff.mp h
      obtain ⟨rfl, rfl⟩ := Prod.mk.inj same
      obtain ⟨rfl, free⟩ := ih cut
      -- what begins the text before the occurrence begins the whole text
      have beginsNot : ¬ token <+: c :: b := by
        intro short
        apply begins
        simpa using short.trans (List.prefix_append (c :: b) (token ++ a))
      refine ⟨by simp, ?_⟩
      rw [cutAt?_cons beginsNot, free]
      rfl

/-- Behind `before`, a token stands for the first time. -/
def StandsFirst (token before : List Char) : Prop :=
  ∀ earlier, earlier ++ token <+: before ++ token → earlier = before

theorem standsFirst_cons_iff {c : Char} :
    StandsFirst token (c :: before)
      ↔ ¬ token <+: c :: (before ++ token) ∧ StandsFirst token before := by
  constructor
  · intro first
    refine ⟨fun begins => absurd (first [] begins).symm (List.cons_ne_nil c before), fun earlier begins => ?_⟩
    exact List.cons_inj_right c |>.mp (first (c :: earlier) ((List.prefix_cons_inj c).mpr begins))
  · rintro ⟨beginsNot, first⟩ earlier begins
    cases earlier with
    | nil => exact absurd begins beginsNot
    | cons d earlier =>
      obtain ⟨rfl, more⟩ := List.cons_prefix_cons.mp begins
      rw [first earlier more]

/-- The first occurrence is where the token stands for the first time. -/
theorem cutAt?_eq_some_iff (nonempty : token ≠ []) :
    cutAt? token cs = some (before, after)
      ↔ cs = before ++ (token ++ after) ∧ StandsFirst token before := by
  induction cs generalizing before with
  | nil => simp [cutAt?_nil nonempty, nonempty]
  | cons c cs ih =>
    by_cases begins : token <+: c :: cs
    · obtain ⟨rest, whole⟩ := begins
      rw [cutAt?_of_begins (List.cons_ne_nil c cs) whole.symm, Option.some.injEq, Prod.mk.injEq]
      constructor
      · rintro ⟨rfl, rfl⟩
        refine ⟨whole.symm, fun earlier begins => ?_⟩
        have length := begins.length_le
        simp only [List.length_append, List.length_nil] at length
        exact List.length_eq_zero_iff.mp (by omega)
      · rintro ⟨whole', first⟩
        -- the token is at the front, so it stands there for the first time
        have short : token <+: before ++ token := by
          have long : before ++ token <+: c :: cs := by
            rw [whole', ← List.append_assoc]
            exact List.prefix_append _ _
          exact List.prefix_of_prefix_length_le ⟨rest, whole⟩ long (by simp)
        obtain rfl := first [] short
        rw [← whole, List.nil_append] at whole'
        exact ⟨rfl, List.append_cancel_left whole'⟩
    · rw [cutAt?_cons begins, Option.map_eq_some_iff]
      constructor
      · rintro ⟨⟨b, a⟩, cut, same⟩
        obtain ⟨rfl, rfl⟩ := Prod.mk.inj same
        obtain ⟨rfl, first⟩ := ih.mp cut
        refine ⟨rfl, standsFirst_cons_iff.mpr ⟨fun short => begins ?_, first⟩⟩
        have longer := short.trans (List.prefix_append (c :: (b ++ token)) a)
        simpa using longer
      · rintro ⟨whole, first⟩
        cases before with
        | nil => exact absurd ⟨after, whole.symm⟩ begins
        | cons d before =>
          obtain ⟨rfl, rfl⟩ := List.cons.inj whole
          exact ⟨(before, after), ih.mpr ⟨rfl, (standsFirst_cons_iff.mp first).2⟩, rfl⟩

theorem length_of_cutAt? (nonempty : token ≠ []) (h : cutAt? token cs = some (before, after)) :
    after.length < cs.length := by
  have positive := List.length_pos_iff.mpr nonempty
  have whole := congrArg List.length (eq_of_cutAt? nonempty h).1
  simp only [List.length_append] at whole
  omega

/-- What follows a text changes nothing about its first occurrence. -/
theorem cutAt?_append_of_some (nonempty : token ≠ []) (h : cutAt? token x = some (before, after))
    (y : List Char) : cutAt? token (x ++ y) = some (before, after ++ y) := by
  induction x generalizing before with
  | nil =>
    rw [cutAt?_nil nonempty] at h
    cases h
  | cons c x ih =>
    by_cases begins : token <+: c :: x
    · obtain ⟨rest, whole⟩ := begins
      rw [cutAt?_of_begins (List.cons_ne_nil c x) whole.symm] at h
      obtain ⟨rfl, rfl⟩ := Prod.mk.inj (Option.some.inj h)
      apply cutAt?_of_begins
      · simp
      · rw [← whole, List.append_assoc]
    · -- an occurrence that begins here would end in `x`, as the first one does
      have longer : token.length ≤ (c :: x).length := by
        have whole := congrArg List.length (eq_of_cutAt? nonempty h).1
        simp only [List.length_append] at whole
        omega
      have beginsNot : ¬ token <+: c :: (x ++ y) := by
        intro long
        exact begins (List.prefix_of_prefix_length_le long (List.prefix_append (c :: x) y) longer)
      rw [cutAt?_cons begins] at h
      obtain ⟨⟨b, a⟩, cut, same⟩ := Option.map_eq_some_iff.mp h
      obtain ⟨rfl, rfl⟩ := Prod.mk.inj same
      rw [List.cons_append, cutAt?_cons beginsNot, ih cut]
      rfl

/-! ## Section 2: Sealed texts -/

/-- A text that does not end with the beginning of a token, apart from a whole one. -/
def IsSealed (token cs : List Char) : Prop :=
  ∀ ending, ending <:+ cs → ending <+: token → ending = [] ∨ ending = token

theorem IsSealed.of_suffix (isSealed : IsSealed token cs) (h : x <:+ cs) : IsSealed token x :=
  fun ending inX begins => isSealed ending (inX.trans h) begins

theorem IsSealed.append (first : IsSealed token x) (second : IsSealed token y) :
    IsSealed token (x ++ y) := by
  intro ending isEnding begins
  rcases List.suffix_or_suffix_of_suffix isEnding (List.suffix_append x y) with inSecond | reaching
  · exact second ending inSecond begins
  · -- an ending that reaches back over the second text begins in the first
    obtain ⟨back, rfl⟩ := reaching
    have inFirst : back <:+ x := List.suffix_append_self_iff.mp isEnding
    rcases first back inFirst ((List.prefix_append back y).trans begins) with rfl | rfl
    · exact second y (List.suffix_refl y) begins
    · right
      have length := begins.length_le
      have short : y = [] := by
        simp only [List.length_append] at length
        exact List.length_eq_zero_iff.mp (by omega)
      simp [short]

/-- If a sealed text has no occurrence, the first one is in what follows it. -/
theorem cutAt?_append_of_none (isSealed : IsSealed token x)
    (free : cutAt? token x = none) (y : List Char) :
    cutAt? token (x ++ y) = (cutAt? token y).map fun (before, after) => (x ++ before, after) := by
  induction x with
  | nil => cases cut : cutAt? token y <;> simp [cut]
  | cons c x ih =>
    have begins : ¬ token <+: c :: x := by
      rintro ⟨rest, whole⟩
      rw [cutAt?_of_begins (List.cons_ne_nil c x) whole.symm] at free
      cases free
    -- an occurrence that begins here and ends behind would begin with all of the sealed text
    have beginsNot : ¬ token <+: c :: (x ++ y) := by
      intro long
      rcases List.prefix_or_prefix_of_prefix long (List.prefix_append (c :: x) y) with h | h
      · exact begins h
      · rcases isSealed (c :: x) (List.suffix_refl _) h with empty | same
        · cases empty
        · exact begins (same ▸ List.prefix_refl _)
    rw [cutAt?_cons begins, Option.map_eq_none_iff] at free
    rw [List.cons_append, cutAt?_cons beginsNot,
      ih (isSealed.of_suffix (List.suffix_cons c x)) free]
    cases cutAt? token y <;> rfl

/-! ## Section 3: Segments -/

/-- The segments of a text between the occurrences of a token. -/
def segmentsAround (token cs : List Char) : List (List Char) := partsOf token cs.length cs

theorem partsOf_succ (nonempty : token ≠ []) {count : Nat} (enough : cs.length ≤ count) :
    partsOf token (count + 1) cs = partsOf token count cs := by
  induction count generalizing cs with
  | zero =>
    obtain rfl := List.length_eq_zero_iff.mp (Nat.le_zero.mp enough)
    show partsOf token 1 [] = [[]]
    rw [partsOf, cutAt?_nil nonempty]
  | succ count ih =>
    rw [partsOf]
    conv_rhs => rw [partsOf]
    cases cut : cutAt? token cs with
    | none => rfl
    | some r =>
      obtain ⟨before, after⟩ := r
      have shorter := length_of_cutAt? nonempty cut
      dsimp only
      rw [ih (by omega)]

/-- Cutting as often as there are characters is cutting at every occurrence. -/
theorem partsOf_eq_segmentsAround (nonempty : token ≠ []) {count : Nat}
    (enough : cs.length ≤ count) :
    partsOf token count cs = segmentsAround token cs := by
  induction count, enough using Nat.le_induction with
  | base => rfl
  | succ count enough ih => rw [partsOf_succ nonempty enough, ih]

theorem segmentsAround_of_none (free : cutAt? token cs = none) :
    segmentsAround token cs = [cs] := by
  unfold segmentsAround
  cases cs.length with
  | zero => rfl
  | succ count => rw [partsOf, free]

theorem segmentsAround_of_some (nonempty : token ≠ [])
    (cut : cutAt? token cs = some (before, after)) :
    segmentsAround token cs = before :: segmentsAround token after := by
  have shorter := length_of_cutAt? nonempty cut
  obtain ⟨count, length⟩ := Nat.exists_eq_add_of_lt (Nat.zero_lt_of_lt shorter)
  unfold segmentsAround
  rw [length, Nat.zero_add, partsOf, cut]
  dsimp only
  rw [partsOf_eq_segmentsAround nonempty (by omega)]
  rfl

/-- Induction along the occurrences of a token. -/
theorem occurrence_induction {motive : List Char → Prop} (nonempty : token ≠ [])
    (free : ∀ cs, cutAt? token cs = none → motive cs)
    (cut : ∀ cs before after, cutAt? token cs = some (before, after) → motive after → motive cs)
    (cs : List Char) : motive cs := by
  induction length : cs.length using Nat.strong_induction_on generalizing cs with
  | _ n ih =>
    cases found : cutAt? token cs with
    | none => exact free cs found
    | some r =>
      obtain ⟨before, after⟩ := r
      have shorter := length_of_cutAt? nonempty found
      exact cut cs before after found (ih after.length (by omega) after rfl)

theorem segmentsAround_ne_nil (nonempty : token ≠ []) (cs : List Char) :
    segmentsAround token cs ≠ [] := by
  cases cut : cutAt? token cs with
  | none => simp [segmentsAround_of_none cut]
  | some r => simp [segmentsAround_of_some nonempty cut]

/-- The segments of a text are those parts without the token that the token stands between. -/
theorem segmentsAround_spec (nonempty : token ≠ []) (cs : List Char) :
    token.intercalate (segmentsAround token cs) = cs
      ∧ ∀ segment ∈ segmentsAround token cs, cutAt? token segment = none := by
  induction cs using occurrence_induction nonempty with
  | free cs free => simp [segmentsAround_of_none free, free]
  | cut cs before after cut ih =>
    obtain ⟨whole, freeBefore⟩ := eq_of_cutAt? nonempty cut
    rw [segmentsAround_of_some nonempty cut]
    constructor
    · rw [List.intercalate_cons_of_ne_nil (segmentsAround_ne_nil nonempty after), ih.1, whole]
    · intro segment mem
      rcases List.mem_cons.mp mem with rfl | mem
      · exact freeBefore
      · exact ih.2 segment mem

/-! ## Section 4: Replacing -/

/-- A text with every occurrence of a token replaced. -/
def replaceIn (token new cs : List Char) : List Char := new.intercalate (segmentsAround token cs)

theorem replaceIn_of_none (free : cutAt? token cs = none) : replaceIn token new cs = cs := by
  rw [replaceIn, segmentsAround_of_none free, List.intercalate_singleton]

theorem replaceIn_of_some (nonempty : token ≠ [])
    (cut : cutAt? token cs = some (before, after)) :
    replaceIn token new cs = before ++ new ++ replaceIn token new after := by
  unfold replaceIn
  rw [segmentsAround_of_some nonempty cut,
    List.intercalate_cons_of_ne_nil (segmentsAround_ne_nil nonempty after)]

/-- What replacing gives is made of what was there and what is put in. -/
theorem mem_replaceIn (nonempty : token ≠ []) {c : Char} (h : c ∈ replaceIn token new cs) :
    c ∈ new ∨ c ∈ cs := by
  induction cs using occurrence_induction nonempty with
  | free cs free =>
    rw [replaceIn_of_none free] at h
    exact .inr h
  | cut cs before after cut ih =>
    obtain ⟨whole, -⟩ := eq_of_cutAt? nonempty cut
    rw [replaceIn_of_some nonempty cut, List.append_assoc] at h
    rw [whole]
    rcases List.mem_append.mp h with inBefore | h
    · exact .inr (List.mem_append_left _ (List.mem_append_left _ inBefore))
    · rcases List.mem_append.mp h with inNew | inAfter
      · exact .inl inNew
      · exact (ih inAfter).imp_right fun mem => List.mem_append_right _ mem

/-- A character where no token begins stays in front. -/
theorem replaceIn_cons (nonempty : token ≠ []) {c : Char} (beginsNot : ¬ token <+: c :: cs) :
    replaceIn token new (c :: cs) = c :: replaceIn token new cs := by
  have cut := cutAt?_cons beginsNot
  cases found : cutAt? token cs with
  | none =>
    rw [found] at cut
    rw [replaceIn_of_none cut, replaceIn_of_none found]
  | some r =>
    rw [found] at cut
    rw [replaceIn_of_some nonempty cut, replaceIn_of_some nonempty found]
    rfl

/-- Cutting a text at a token gives the segments around it. -/
theorem splitOnText_eq {old : String} (nonempty : old.toList ≠ []) (s : String) :
    splitOnText old none s = (segmentsAround old.toList s.toList).map String.ofList := by
  have notEmpty : old.isEmpty = false := by
    rw [Bool.eq_false_iff]
    intro empty
    exact nonempty (by simp [String.isEmpty_iff.mp empty])
  unfold splitOnText
  simp only [Option.getD_none, Nat.add_eq_zero_iff, notEmpty]
  simp [partsOf_eq_segmentsAround nonempty (Nat.le_succ _)]

/-- Replacing in texts is replacing in their characters. -/
theorem replaceAll_eq {old : String} (nonempty : old.toList ≠ []) (new s : String) :
    replaceAll old new s = String.ofList (replaceIn old.toList new.toList s.toList) := by
  apply String.toList_inj.mp
  rw [replaceAll, splitOnText_eq nonempty, String.toList_intercalate, String.toList_ofList]
  simp [replaceIn, Function.comp_def]

/-- A sealed text and what follows it are replaced in one by one. -/
theorem replaceIn_append (nonempty : token ≠ []) (isSealed : IsSealed token x) (y : List Char) :
    replaceIn token new (x ++ y) = replaceIn token new x ++ replaceIn token new y := by
  induction x using occurrence_induction nonempty with
  | free x free =>
    rw [replaceIn_of_none free]
    -- the first occurrence is in what follows, if there is one
    have cut := cutAt?_append_of_none isSealed free y
    cases found : cutAt? token y with
    | none =>
      rw [found] at cut
      rw [replaceIn_of_none cut, replaceIn_of_none found]
    | some r =>
      rw [found] at cut
      rw [replaceIn_of_some nonempty cut, replaceIn_of_some nonempty found]
      simp
  | cut x before after cut ih =>
    obtain ⟨whole, -⟩ := eq_of_cutAt? nonempty cut
    have isSealed' := isSealed.of_suffix (x := after) ⟨before ++ token, whole.symm⟩
    rw [replaceIn_of_some nonempty (cutAt?_append_of_some nonempty cut y), ih isSealed',
      replaceIn_of_some nonempty cut]
    simp

/-! ## Section 5: Replacing in what has been put in -/

/-- A text whose segments around a token are sealed. -/
def HasSealedSegments (token cs : List Char) : Prop :=
  ∀ segment ∈ segmentsAround token cs, IsSealed token segment

theorem HasSealedSegments.of_none (h : HasSealedSegments token cs) (free : cutAt? token cs = none) :
    IsSealed token cs :=
  h cs (by simp [segmentsAround_of_none free])

theorem HasSealedSegments.of_some (h : HasSealedSegments token cs) (nonempty : token ≠ [])
    (cut : cutAt? token cs = some (before, after)) :
    IsSealed token before ∧ HasSealedSegments token after := by
  unfold HasSealedSegments at h
  rw [segmentsAround_of_some nonempty cut] at h
  exact ⟨h before List.mem_cons_self, fun segment mem => h segment (List.mem_cons_of_mem _ mem)⟩

/-- A text with sealed segments stays sealed when sealed texts are put in. -/
theorem HasSealedSegments.isSealed_replaceIn (h : HasSealedSegments token cs)
    (nonempty : token ≠ []) (isSealed : IsSealed token new) :
    IsSealed token (replaceIn token new cs) := by
  induction cs using occurrence_induction nonempty with
  | free cs free =>
    rw [replaceIn_of_none free]
    exact h.of_none free
  | cut cs before after cut ih =>
    obtain ⟨first, rest⟩ := h.of_some nonempty cut
    rw [replaceIn_of_some nonempty cut]
    exact (first.append isSealed).append (ih rest)

/-- A token that does not end with its own beginning leaves a text with sealed segments sealed. -/
theorem HasSealedSegments.isSealed (h : HasSealedSegments token cs) (nonempty : token ≠ [])
    (unbordered : IsSealed token token) : IsSealed token cs := by
  have same := (segmentsAround_spec nonempty cs).1
  rw [← same]
  exact h.isSealed_replaceIn nonempty unbordered

/-- Replacing in a text into which a sealed one has been put is the same as replacing in that one
before it is put in. -/
theorem replaceIn_replaceIn (nonempty : token ≠ []) (h : HasSealedSegments token cs)
    (isSealed : IsSealed token x) (new : List Char) :
    replaceIn token new (replaceIn token x cs)
      = replaceIn token (replaceIn token new x) cs := by
  induction cs using occurrence_induction nonempty with
  | free cs free => rw [replaceIn_of_none free, replaceIn_of_none free, replaceIn_of_none free]
  | cut cs before after cut ih =>
    obtain ⟨first, rest⟩ := h.of_some nonempty cut
    obtain ⟨-, free⟩ := eq_of_cutAt? nonempty cut
    calc replaceIn token new (replaceIn token x cs)
        = replaceIn token new (before ++ (x ++ replaceIn token x after)) := by
          rw [replaceIn_of_some nonempty cut, List.append_assoc]
      _ = before ++ (replaceIn token new x ++ replaceIn token new (replaceIn token x after)) := by
          rw [replaceIn_append nonempty first, replaceIn_append nonempty isSealed,
            replaceIn_of_none free]
      _ = replaceIn token (replaceIn token new x) cs := by
          rw [ih rest, replaceIn_of_some nonempty cut, List.append_assoc]

/-! ## Section 6: A token that stands once -/

/-- A text is cut nowhere just when the token does not occur in it. -/
theorem cutAt?_eq_none_iff (nonempty : token ≠ []) : cutAt? token cs = none ↔ ¬ token <:+: cs := by
  induction cs with
  | nil => simp [cutAt?_nil nonempty, nonempty]
  | cons c cs ih =>
    rw [List.infix_cons_iff]
    by_cases begins : token <+: c :: cs
    · obtain ⟨rest, whole⟩ := begins
      rw [cutAt?_of_begins (List.cons_ne_nil c cs) whole.symm]
      simp [← whole]
    · rw [cutAt?_cons begins, Option.map_eq_none_iff, ih]
      simp [begins]

/-- A token that begins with a character of its own does not end with its own beginning. -/
theorem isSealed_self_of_notMem {c : Char} {rest : List Char} (own : c ∉ rest) :
    IsSealed (c :: rest) (c :: rest) := by
  intro ending isEnding begins
  cases ending with
  | nil => exact .inl rfl
  | cons d ending =>
    obtain ⟨rfl, -⟩ := List.cons_prefix_cons.mp begins
    rcases List.suffix_cons_iff.mp isEnding with whole | inside
    · exact .inr whole
    · exact absurd (inside.subset List.mem_cons_self) own

/-- A token that does not end with its own beginning occurs for the first time where it is put, if it
does not occur before. -/
theorem cutAt?_append_token (nonempty : token ≠ []) (unbordered : IsSealed token token)
    (free : ¬ token <:+: x) (y : List Char) :
    cutAt? token (x ++ (token ++ y)) = some (x, y) := by
  induction x with
  | nil => exact cutAt?_of_begins (by simp [nonempty]) rfl
  | cons c x ih =>
    rw [List.infix_cons_iff, not_or] at free
    obtain ⟨begins, free⟩ := free
    have beginsNot : ¬ token <+: c :: (x ++ (token ++ y)) := by
      intro long
      rcases List.prefix_or_prefix_of_prefix long (List.prefix_append (c :: x) _) with h | ⟨ending, h⟩
      · exact begins h
      · -- an occurrence that begins here would end in the token, with a beginning of it
        have reaches : ending <+: token ++ y := by
          rw [← h, ← List.cons_append, List.prefix_append_right_inj, h] at long
          exact long
        have shorter := congrArg List.length h
        simp only [List.length_append, List.length_cons] at shorter
        have inToken : ending <+: token :=
          List.prefix_of_prefix_length_le reaches (List.prefix_append token y) (by omega)
        rcases unbordered ending ⟨c :: x, h⟩ inToken with rfl | rfl
        · exact begins (by rw [← h, List.append_nil])
        · omega
    rw [List.cons_append, cutAt?_cons beginsNot, ih free]
    rfl

/-- A token that stands at one place alone is replaced there. -/
theorem replaceIn_append_token (nonempty : token ≠ []) (unbordered : IsSealed token token)
    (freeBefore : ¬ token <:+: x) (freeAfter : ¬ token <:+: y) :
    replaceIn token new (x ++ (token ++ y)) = x ++ new ++ y := by
  rw [replaceIn_of_some nonempty (cutAt?_append_token nonempty unbordered freeBefore y),
    replaceIn_of_none ((cutAt?_eq_none_iff nonempty).mpr freeAfter)]

end Folio.Text
