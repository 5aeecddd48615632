import Folio.Text.Blank
import Folio.Value

/-!
# Front matter

A document may begin with metadata: a line `---`, lines of YAML, and a closing line `---` or `...`.
Everything after the closing line is the content.

The reading of the metadata is a parameter, so that what is said about splitting a document holds
for every metadata format.

Main definitions:
- `FrontMatter`: the variables and the content of a document
- `FrontMatter.split`: where the metadata of a text ends
- `FrontMatter.parse`: a document with its metadata read
-/

namespace Folio

/-- Why a document cannot be split into metadata and content. -/
inductive FrontMatterError where
  /-- The metadata has no closing line. -/
  | unterminated
  /-- The metadata is no mapping of the metadata format. -/
  | notAMapping
deriving DecidableEq, Repr, Inhabited

/-- The wording of an error. -/
def FrontMatterError.message : FrontMatterError → String
  | .unterminated => "front matter opened with \x60---\x60 is never closed"
  | .notAMapping => "front matter is not a valid YAML mapping"

/-- A document split into metadata and content. -/
structure FrontMatter where
  vars : Variables
  content : String
deriving Inhabited

namespace FrontMatter

/-- The variable that names the layout around a document. -/
def layoutKey : String := "layout"

/-- What a document says about its layout; a null says nothing. -/
def layout? (fm : FrontMatter) : Option Value :=
  (fm.vars.get? layoutKey).filter (!·.isNull)

theorem layout?_eq_none_iff {fm : FrontMatter} :
    fm.layout? = none ↔ ∀ v, fm.vars.get? layoutKey = some v → v = .null := by
  unfold layout?
  cases fm.vars.get? layoutKey with
  | none => simp
  | some v => cases v <;> simp [Option.filter, Value.isNull]

theorem layout?_eq_some {fm : FrontMatter} {layout : Value}
    (named : fm.vars.get? layoutKey = some layout) (notNull : layout ≠ .null) :
    fm.layout? = some layout := by
  unfold layout?
  cases layout <;> simp_all [Option.filter, Value.isNull]

/-! ## Section 1: Delimiters -/

/-- A text without a byte order mark at its beginning. -/
def dropMark : List Char → List Char
  | '\uFEFF' :: cs => cs
  | cs => cs

/-- The text after the opening line; nothing if the text does not begin with one. -/
def afterOpening? (cs : List Char) : Option (List Char) :=
  match Text.stripStart? ['-', '-', '-'] cs with
  | some ('\r' :: '\n' :: rest) => some rest
  | some ('\n' :: rest) => some rest
  | _ => none

/-- Whether a line closes the metadata: three dashes or dots, and then only line ends. -/
def isClosing (line : List Char) : Bool :=
  let bare := Text.dropEndWhile (fun c => c = '\n' || c = '\r') line
  bare = ['-', '-', '-'] || bare = ['.', '.', '.']

/-- Cut a text into lines, each with the line feed that ends it. -/
def lines : List Char → List (List Char)
  | [] => []
  | c :: cs =>
      if c = '\n' then [c] :: lines cs
      else
        match lines cs with
        | [] => [[c]]
        | line :: rest => (c :: line) :: rest

/-- The text before the first closing line and the text after it. -/
def splitAtClosing : List (List Char) → Option (List Char × List Char)
  | [] => none
  | line :: rest =>
      if isClosing line then some ([], rest.flatten)
      else (splitAtClosing rest).map fun (before, after) => (line ++ before, after)

/-- The metadata of a text, if it has any, and its content. -/
def split (cs : List Char) : Except FrontMatterError (Option (List Char) × List Char) :=
  let cs := dropMark cs
  match afterOpening? cs with
  | none => .ok (none, cs)
  | some rest =>
      match splitAtClosing (lines rest) with
      | none => .error .unterminated
      | some (metadata, content) => .ok (some metadata, content)

/-! ## Section 2: Documents -/

/-- The variables of a metadata block, which a blank block has none of. -/
def readMetadata (readMapping? : String → Option Variables) (metadata : List Char) :
    Except FrontMatterError Variables :=
  if Text.isBlankText metadata then .ok .empty
  else
    match readMapping? (String.ofList metadata) with
    | some vars => .ok vars
    | none => .error .notAMapping

/-- Split a text into its metadata, read by `readMapping?`, and its content. -/
def parse (readMapping? : String → Option Variables) (text : String) :
    Except FrontMatterError FrontMatter :=
  match split text.toList with
  | .error e => .error e
  | .ok (none, content) => .ok { vars := .empty, content := String.ofList content }
  | .ok (some metadata, content) =>
      match readMetadata readMapping? metadata with
      | .error e => .error e
      | .ok vars => .ok { vars, content := String.ofList content }

end FrontMatter

end Folio
