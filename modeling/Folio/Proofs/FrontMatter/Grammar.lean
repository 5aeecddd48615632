import Folio.FrontMatter
import Folio.Proofs.Text.Replace
import Mathlib.Data.List.TakeWhile

/-!
# The grammar of front matter

A document with metadata is an opening line, a block without a closing line, the first closing line,
and the content. Lines end with a line feed; what else stands at the end of a closing line are
carriage returns. Reading a document finds these parts, and nothing is lost between them.

Main definitions:
- `FrontMatter.IsLine`, `FrontMatter.HasClosingLine`: the lines of a text
- `FrontMatter.Parses`: the grammar, and what each of its forms gives

Main statement: `FrontMatter.parse_eq_iff_parses`.
-/

namespace Folio.FrontMatter

/-! ## Section 1: Lines -/

/-- `line` is a line of the text that has `before` in front of it and `after` behind it: it begins
the text or follows a line feed, and goes up to the next line feed or, if there is none, to the
end. -/
structure IsLine (before line after : List Char) : Prop where
  start : before = [] ∨ before.getLast? = some '\n'
  nonempty : line ≠ []
  ended : (∃ init, '\n' ∉ init ∧ line = init ++ ['\n']) ∨ '\n' ∉ line ∧ after = []

section Lines

variable {cs init line before after : List Char}

/-- A text is empty, one line without a line feed, or a line with one and the lines after it. -/
theorem line_induction {motive : List Char → Prop} (nil : motive [])
    (last : ∀ line, line ≠ [] → '\n' ∉ line → motive line)
    (feed : ∀ init after, '\n' ∉ init → motive after → motive (init ++ '\n' :: after))
    (cs : List Char) : motive cs := by
  by_cases mem : '\n' ∈ cs
  · obtain ⟨init, after, whole, free⟩ := List.eq_append_cons_of_mem mem
    have shorter : after.length < cs.length := by simp [whole]; omega
    rw [whole]
    exact feed init after free (line_induction nil last feed after)
  · by_cases empty : cs = []
    · rwa [empty]
    · exact last cs empty mem
  termination_by cs.length

theorem lines_of_no_feed (nonempty : line ≠ []) (free : '\n' ∉ line) : lines line = [line] := by
  induction line with
  | nil => exact absurd rfl nonempty
  | cons c rest ih =>
    rw [List.mem_cons, not_or] at free
    cases rest with
    | nil => simp [lines, Ne.symm free.1]
    | cons d rest => rw [lines, if_neg (Ne.symm free.1), ih (by simp) free.2]

theorem lines_append_feed (free : '\n' ∉ init) (after : List Char) :
    lines (init ++ '\n' :: after) = (init ++ ['\n']) :: lines after := by
  induction init with
  | nil => simp [lines]
  | cons c rest ih =>
    rw [List.mem_cons, not_or] at free
    rw [List.cons_append, lines, if_neg (Ne.symm free.1), ih free.2]
    rfl

@[simp] theorem flatten_lines (cs : List Char) : (lines cs).flatten = cs := by
  induction cs using line_induction with
  | nil => rfl
  | last line nonempty free => simp [lines_of_no_feed nonempty free]
  | feed init after free ih => simp [lines_append_feed free, ih]

/-- The lines of a text that is cut where a line begins. -/
theorem lines_append (start : before = [] ∨ before.getLast? = some '\n') (after : List Char) :
    lines (before ++ after) = lines before ++ lines after := by
  induction before using line_induction with
  | nil => rfl
  | last line nonempty free =>
    obtain empty | feed := start
    · exact absurd empty nonempty
    · exact absurd (List.mem_of_getLast? feed) free
  | feed init rest free ih =>
    have start' : rest = [] ∨ rest.getLast? = some '\n' := by
      rcases List.eq_nil_or_concat' rest with rfl | ⟨front, c, rfl⟩
      · exact .inl rfl
      · refine .inr ?_
        rcases start with none | feed
        · simp at none
        · rwa [← List.cons_append, ← List.append_assoc, List.getLast?_concat,
            ← List.getLast?_concat (l := front)] at feed
    rw [List.append_assoc, List.cons_append, lines_append_feed free, lines_append_feed free,
      ih start', List.cons_append]

theorem IsLine.lines_eq (h : IsLine before line after) :
    lines (before ++ line ++ after) = lines before ++ line :: lines after := by
  rw [List.append_assoc, lines_append h.start]
  obtain ⟨init, free, rfl⟩ | ⟨free, rfl⟩ := h.ended
  · rw [List.append_assoc, List.cons_append, List.nil_append, lines_append_feed free]
  · rw [List.append_nil, lines_of_no_feed h.nonempty free]
    rfl

/-- Cutting a text into lines gives its lines. -/
theorem isLine_of_lines {front behind : List (List Char)} (h : lines cs = front ++ line :: behind) :
    IsLine front.flatten line behind.flatten ∧ lines front.flatten = front := by
  induction cs using line_induction generalizing front with
  | nil => simp [lines] at h
  | last only nonempty free =>
    rw [lines_of_no_feed nonempty free] at h
    obtain ⟨rfl, rfl, rfl⟩ : front = [] ∧ only = line ∧ behind = [] := by
      cases front <;> simp_all
    exact ⟨⟨.inl rfl, nonempty, .inr ⟨free, rfl⟩⟩, rfl⟩
  | feed init rest free ih =>
    rw [lines_append_feed free] at h
    cases front with
    | nil =>
      obtain ⟨rfl, rfl⟩ := List.cons.inj h
      exact ⟨⟨.inl rfl, by simp, .inl ⟨init, free, rfl⟩⟩, rfl⟩
    | cons first front =>
      obtain ⟨rfl, others⟩ := List.cons.inj h
      obtain ⟨isLine, same⟩ := ih others
      refine ⟨⟨.inr ?_, isLine.nonempty, isLine.ended⟩, ?_⟩
      · rcases isLine.start with empty | feed
        · simp [empty]
        · rw [List.flatten_cons, List.getLast?_append, feed]
          rfl
      · rw [List.flatten_cons, List.append_assoc, List.singleton_append, lines_append_feed free,
          same]

end Lines

/-! ## Section 2: Closing lines -/

/-- A line that closes the metadata: three dashes or dots, and then nothing but ends of lines. -/
def Closes (line : List Char) : Prop :=
  ∃ mark ∈ ["---", "..."], ∃ ends : List Char,
    (∀ c ∈ ends, c = '\n' ∨ c = '\r') ∧ line = mark.toList ++ ends

/-- Some line of a text closes metadata. -/
def HasClosingLine (cs : List Char) : Prop :=
  ∃ before line after, cs = before ++ line ++ after ∧ IsLine before line after ∧ Closes line

theorem isClosing_iff {line : List Char} : isClosing line ↔ Closes line := by
  have isEnd {c : Char} (h : c = '\n' ∨ c = '\r') :
      (decide (c = '\n') || decide (c = '\r')) = true := by
    simpa using h
  constructor
  · intro closing
    -- what has been dropped at the end are ends of lines
    have whole : line = Text.dropEndWhile (fun c => c = '\n' || c = '\r') line
        ++ (line.reverse.takeWhile fun c => c = '\n' || c = '\r').reverse := by
      rw [Text.dropEndWhile, ← List.reverse_append, List.takeWhile_append_dropWhile,
        List.reverse_reverse]
    have ends : ∀ c ∈ (line.reverse.takeWhile fun c => c = '\n' || c = '\r').reverse,
        c = '\n' ∨ c = '\r' := fun c mem => by
      simpa using List.mem_takeWhile_imp (List.mem_reverse.mp mem)
    simp only [isClosing, Bool.or_eq_true, decide_eq_true_eq] at closing
    rcases closing with bare | bare
    · exact ⟨"---", by simp, _, ends, by rw [bare] at whole; exact whole⟩
    · exact ⟨"...", by simp, _, ends, by rw [bare] at whole; exact whole⟩
  · rintro ⟨mark, mem, ends, all, rfl⟩
    have bare : Text.dropEndWhile (fun c => c = '\n' || c = '\r') (mark.toList ++ ends)
        = Text.dropEndWhile (fun c => c = '\n' || c = '\r') mark.toList := by
      rw [Text.dropEndWhile, List.reverse_append, List.dropWhile_append_of_pos]
      · rfl
      · exact fun c inEnds => isEnd (all c (List.mem_reverse.mp inEnds))
    rw [isClosing, bare]
    simp only [List.mem_cons, List.not_mem_nil, or_false] at mem
    rcases mem with rfl | rfl <;> decide

theorem hasClosingLine_iff {cs : List Char} :
    HasClosingLine cs ↔ ∃ line ∈ lines cs, isClosing line := by
  constructor
  · rintro ⟨before, line, after, rfl, isLine, closes⟩
    refine ⟨line, ?_, isClosing_iff.mpr closes⟩
    rw [isLine.lines_eq]
    exact List.mem_append_right _ List.mem_cons_self
  · rintro ⟨line, mem, closing⟩
    obtain ⟨front, behind, cut⟩ := List.append_of_mem mem
    refine ⟨front.flatten, line, behind.flatten, ?_, (isLine_of_lines cut).1,
      isClosing_iff.mp closing⟩
    rw [← flatten_lines cs, cut]
    simp

instance (line : List Char) : Decidable (Closes line) := decidable_of_iff _ isClosing_iff

instance (cs : List Char) : Decidable (HasClosingLine cs) :=
  decidable_of_iff _ hasClosingLine_iff.symm

theorem splitAtClosing_eq_none_iff {ls : List (List Char)} :
    splitAtClosing ls = none ↔ ∀ line ∈ ls, ¬ isClosing line := by
  induction ls with
  | nil => simp [splitAtClosing]
  | cons line rest ih =>
    cases closing : isClosing line <;> simp [splitAtClosing, closing, ih]

theorem splitAtClosing_append {front behind : List (List Char)} {line : List Char}
    (first : ∀ line ∈ front, ¬ isClosing line) (closing : isClosing line) :
    splitAtClosing (front ++ line :: behind) = some (front.flatten, behind.flatten) := by
  induction front with
  | nil => simp [splitAtClosing, closing]
  | cons other front ih =>
    have more := ih fun line mem => first line (List.mem_cons_of_mem _ mem)
    rw [List.cons_append, splitAtClosing, if_neg (first other List.mem_cons_self), more]
    rfl

/-- A text is split at its first closing line, and every text that has one is split. -/
theorem splitAtClosing_lines {cs before line after : List Char} (isLine : IsLine before line after)
    (cut : cs = before ++ line ++ after) (closes : Closes line) (first : ¬ HasClosingLine before) :
    splitAtClosing (lines cs) = some (before, after) := by
  rw [cut, isLine.lines_eq, splitAtClosing_append ?_ (isClosing_iff.mpr closes)]
  · simp
  · intro other mem closing
    exact first (hasClosingLine_iff.mpr ⟨other, mem, closing⟩)

theorem exists_first_closing {cs : List Char} (h : HasClosingLine cs) :
    ∃ before line after, cs = before ++ line ++ after ∧ IsLine before line after ∧ Closes line
      ∧ ¬ HasClosingLine before := by
  -- on the lines of the text, of which the first one that closes is taken
  obtain ⟨front, line, behind, cut, first, closing⟩ : ∃ front line behind,
      lines cs = front ++ line :: behind ∧ (∀ other ∈ front, ¬ isClosing other)
        ∧ isClosing line := by
    obtain ⟨line, mem, closing⟩ := hasClosingLine_iff.mp h
    obtain ⟨found, search⟩ := Option.isSome_iff_exists.mp
      (List.find?_isSome.mpr ⟨line, mem, closing⟩)
    obtain ⟨closing', front, behind, cut, first⟩ := List.find?_eq_some_iff_append.mp search
    exact ⟨front, found, behind, cut, fun other inFront => by simpa using first other inFront,
      closing'⟩
  obtain ⟨isLine, same⟩ := isLine_of_lines cut
  refine ⟨front.flatten, line, behind.flatten, ?_, isLine, isClosing_iff.mp closing, ?_⟩
  · rw [← flatten_lines cs, cut]
    simp
  · rw [hasClosingLine_iff, same]
    rintro ⟨other, mem, closing'⟩
    exact first other mem closing'

/-! ## Section 3: The grammar -/

/-- The texts that open metadata. -/
def openings : List String := ["---\n", "---\r\n"]

/-- A text without the one byte order mark that it may begin with. -/
def Unmarked (text body : String) : Prop :=
  text = "\uFEFF" ++ body ∨ body = text ∧ ¬ "\uFEFF".toList <+: text.toList

/-- A reader of data as a reader of mappings. A null is a mapping without entries. -/
def mappingOf (read : String → Option Value) (text : String) : Option Variables :=
  match read text with
  | some .null => some .empty
  | some (.object entries) => some ⟨entries⟩
  | _ => none

/-- What a block of metadata is read as. A blank block is not read. -/
def blockVariables (read : String → Option Value) (block : String) :
    Except FrontMatterError Variables :=
  if block.toList.all Text.isSpace then .ok .empty
  else
    match mappingOf read block with
    | some vars => .ok vars
    | none => .error .notAMapping

/-- What a text is split into: the whole text as content, an opening line without a closing line, or
a block of metadata between an opening line and the first closing line. -/
inductive Parses (read : String → Option Value) (text : String) :
    Except FrontMatterError FrontMatter → Prop where
  | plain {body : String} (unmarked : Unmarked text body)
      (unopened : ∀ opening ∈ openings, ¬ opening.toList <+: body.toList) :
      Parses read text (.ok { vars := .empty, content := body })
  | unterminated {body opening rest : String} (unmarked : Unmarked text body)
      (isOpening : opening ∈ openings) (opened : body = opening ++ rest)
      (unclosed : ¬ HasClosingLine rest.toList) :
      Parses read text (.error .unterminated)
  | closed {body opening block closing content : String} (unmarked : Unmarked text body)
      (isOpening : opening ∈ openings) (parts : body = opening ++ block ++ closing ++ content)
      (isLine : IsLine block.toList closing.toList content.toList)
      (closes : Closes closing.toList) (first : ¬ HasClosingLine block.toList) :
      Parses read text ((blockVariables read block).map fun vars => { vars, content })

section Grammar

variable {read : String → Option Value} {text body : String}

theorem unmarked_iff : Unmarked text body ↔ dropMark text.toList = body.toList := by
  have mark : "\uFEFF".toList = ['\uFEFF'] := rfl
  have marked : text = "\uFEFF" ++ body ↔ text.toList = '\uFEFF' :: body.toList := by
    rw [← String.toList_inj, String.toList_append, mark, List.singleton_append]
  unfold Unmarked
  have same : body = text ↔ body.toList = text.toList := String.toList_inj.symm
  rw [marked, mark, same]
  unfold dropMark
  split
  · rename_i cs begins
    simp [begins, eq_comm]
  · rename_i other
    have unmarked : ¬ ['\uFEFF'] <+: text.toList := by
      rintro ⟨rest, whole⟩
      exact other rest whole.symm
    constructor
    · rintro (begins | ⟨same, -⟩)
      · exact absurd begins (other _)
      · exact same.symm
    · intro same
      exact .inr ⟨same.symm, unmarked⟩

theorem afterOpening?_eq_some_iff {cs rest : List Char} :
    afterOpening? cs = some rest ↔ ∃ opening ∈ openings, cs = opening.toList ++ rest := by
  have dashes : "---\n".toList = ['-', '-', '-', '\n'] ∧
      "---\r\n".toList = ['-', '-', '-', '\r', '\n'] := by decide
  simp only [openings, List.mem_cons, List.not_mem_nil, or_false, exists_eq_or_imp, exists_eq_left,
    dashes]
  unfold afterOpening?
  -- what follows the dashes decides
  split
  · rename_i crlf strip
    rw [Text.stripStart?_eq_some_iff.mp strip]
    simp [eq_comm]
  · rename_i lf strip
    rw [Text.stripStart?_eq_some_iff.mp strip]
    simp [eq_comm]
  · rename_i noCrlf noLf
    constructor
    · simp
    · rintro (rfl | rfl)
      · exact absurd (Text.stripStart?_eq_some_iff.mpr rfl) (noLf rest)
      · exact absurd (Text.stripStart?_eq_some_iff.mpr rfl) (noCrlf rest)

theorem afterOpening?_eq_none_iff {cs : List Char} :
    afterOpening? cs = none ↔ ∀ opening ∈ openings, ¬ opening.toList <+: cs := by
  rw [Option.eq_none_iff_forall_ne_some]
  constructor
  · rintro none opening mem ⟨rest, whole⟩
    exact none rest (afterOpening?_eq_some_iff.mpr ⟨opening, mem, whole.symm⟩)
  · intro unopened rest opened
    obtain ⟨opening, mem, rfl⟩ := afterOpening?_eq_some_iff.mp opened
    exact unopened opening mem (List.prefix_append _ _)

theorem readMetadata_mappingOf (read : String → Option Value) (block : String) :
    readMetadata (mappingOf read) block.toList = blockVariables read block := by
  rw [readMetadata, String.ofList_toList]
  rfl

/-- A text has at most one reading, the one that it is given. -/
theorem Parses.parse_eq {result : Except FrontMatterError FrontMatter}
    (h : Parses read text result) : parse (mappingOf read) text = result := by
  cases h with
  | @plain body unmarked unopened =>
    have split : split text.toList = .ok (none, body.toList) := by
      rw [FrontMatter.split, unmarked_iff.mp unmarked, afterOpening?_eq_none_iff.mpr unopened]
    rw [parse, split]
    simp only [String.ofList_toList]
  | @unterminated body opening rest unmarked isOpening opened unclosed =>
    have opened' : afterOpening? body.toList = some rest.toList :=
      afterOpening?_eq_some_iff.mpr ⟨opening, isOpening, by rw [opened, String.toList_append]⟩
    have none : splitAtClosing (lines rest.toList) = none :=
      splitAtClosing_eq_none_iff.mpr fun line mem closing =>
        unclosed (hasClosingLine_iff.mpr ⟨line, mem, closing⟩)
    have split : split text.toList = .error .unterminated := by
      rw [FrontMatter.split, unmarked_iff.mp unmarked]
      simp only [opened', none]
    rw [parse, split]
  | @closed body opening block closing content unmarked isOpening parts isLine closes first =>
    have opened' : afterOpening? body.toList
        = some (block.toList ++ closing.toList ++ content.toList) :=
      afterOpening?_eq_some_iff.mpr ⟨opening, isOpening, by simp [parts]⟩
    have cut := splitAtClosing_lines isLine rfl closes first
    have split : split text.toList = .ok (some block.toList, content.toList) := by
      rw [FrontMatter.split, unmarked_iff.mp unmarked]
      simp only [opened', cut]
    rw [parse, split]
    simp only [readMetadata_mappingOf, String.ofList_toList]
    cases blockVariables read block <;> rfl

theorem exists_toList (cs : List Char) : ∃ s : String, s.toList = cs :=
  ⟨.ofList cs, String.toList_ofList⟩

/-- Every text has a reading. -/
theorem exists_parses (read : String → Option Value) (text : String) :
    ∃ result, Parses read text result := by
  obtain ⟨body, unmarked⟩ : ∃ body, Unmarked text body :=
    ⟨String.ofList (dropMark text.toList), unmarked_iff.mpr (String.toList_ofList).symm⟩
  cases opened : afterOpening? body.toList with
  | none => exact ⟨_, .plain unmarked (afterOpening?_eq_none_iff.mp opened)⟩
  | some rest =>
    obtain ⟨opening, isOpening, whole⟩ := afterOpening?_eq_some_iff.mp opened
    by_cases unclosed : HasClosingLine rest
    · obtain ⟨block, closing, content, rfl, isLine, closes, first⟩ := exists_first_closing unclosed
      obtain ⟨block, rfl⟩ := exists_toList block
      obtain ⟨closing, rfl⟩ := exists_toList closing
      obtain ⟨content, rfl⟩ := exists_toList content
      have parts : body = opening ++ block ++ closing ++ content := by
        rw [← String.toList_inj, whole]
        simp
      exact ⟨_, .closed unmarked isOpening parts isLine closes first⟩
    · obtain ⟨rest, rfl⟩ := exists_toList rest
      have whole' : body = opening ++ rest := by
        rw [← String.toList_inj, whole, String.toList_append]
      exact ⟨_, .unterminated unmarked isOpening whole' unclosed⟩

/-- Every reader of mappings is one of data that takes nulls for mappings. -/
theorem exists_mappingOf (readMapping? : String → Option Variables) :
    ∃ read, mappingOf read = readMapping? := by
  refine ⟨fun text => (readMapping? text).map fun vars => .object vars.entries, ?_⟩
  funext text
  unfold mappingOf
  dsimp only
  cases readMapping? text <;> rfl

end Grammar

/-- Reading a text gives just what its form in the grammar gives, with whatever reader of mappings.
Whatever block and content are put together with an opening and a closing line, the block is read
and the content comes back as it is, as long as the block consists of whole lines none of which
closes. -/
theorem parse_eq_iff_parses :
    (∀ readMapping?, ∃ read, mappingOf read = readMapping?) ∧ ∀ read : String → Option Value,
    (∀ text result, parse (mappingOf read) text = result ↔ Parses read text result) ∧
    ∀ mark ∈ ["", "\uFEFF"], ∀ opening ∈ openings, ∀ block closing content : String,
      (block = "" ∨ block.toList.getLast? = some '\n') → ¬ HasClosingLine block.toList →
      Closes closing.toList → (∃ init, '\n' ∉ init ∧ closing.toList = init ++ ['\n']) →
        parse (mappingOf read) (mark ++ opening ++ block ++ closing ++ content)
          = (blockVariables read block).map fun vars => { vars, content } := by
  refine ⟨exists_mappingOf, fun read => ⟨?_, ?_⟩⟩
  · intro text result
    constructor
    · rintro rfl
      obtain ⟨result, parses⟩ := exists_parses read text
      rwa [parses.parse_eq]
    · exact Parses.parse_eq
  · intro mark isMark opening isOpening block closing content whole unclosed closes ended
    have unmarked : Unmarked (mark ++ opening ++ block ++ closing ++ content)
        (opening ++ block ++ closing ++ content) := by
      simp only [List.mem_cons, List.not_mem_nil, or_false] at isMark
      rcases isMark with rfl | rfl
      · -- an opening line does not begin with a mark
        refine .inr ⟨by simp, ?_⟩
        simp only [openings, List.mem_cons, List.not_mem_nil, or_false] at isOpening
        rcases isOpening with rfl | rfl <;> simp
      · exact .inl (by simp [String.append_assoc])
    refine (Parses.closed unmarked isOpening rfl ⟨?_, ?_, .inl ended⟩ closes unclosed).parse_eq
    · exact whole.imp_left fun empty => by rw [empty]; rfl
    · obtain ⟨init, -, line⟩ := ended
      simp [line]

/-- A block with a line that only begins like a closing one, and a content with a closing line. -/
theorem parse_eq_iff_parses_dashes :
    let read : String → Option Value := fun _ => some (.object [("a", .int 1)])
    ¬ HasClosingLine "a: 1\n---x\n".toList ∧ Closes "...\r\n".toList ∧
      parse (mappingOf read) "\uFEFF---\r\na: 1\n---x\n...\r\n---\ny"
        = .ok { vars := ⟨[("a", .int 1)]⟩, content := "---\ny" } := by
  intro read
  have unclosed : ¬ HasClosingLine "a: 1\n---x\n".toList := by decide
  have closes : Closes "...\r\n".toList := by decide
  exact ⟨unclosed, closes, (parse_eq_iff_parses.2 read).2 "\uFEFF" (by decide) "---\r\n" (by decide)
    "a: 1\n---x\n" "...\r\n" "---\ny" (by decide) unclosed closes
    ⟨"...\r".toList, by decide, by decide⟩⟩

end Folio.FrontMatter
