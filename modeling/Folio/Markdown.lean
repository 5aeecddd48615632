import Folio.Markdown.Document
import Folio.Markdown.Html
import Folio.Markdown.Mask

/-!
# Markdown

Markdown documents become markup. The tags of templates in them stay as they are.

Main definitions:
- `Markdown.html`: a document as markup
- `Markdown.compile`: the same, with the tags of templates kept
-/

namespace Folio.Markdown

/-- A document as markup. -/
def html (options : Options) (text : String) : String :=
  documentHtml options (readDocument options text)

/-- A document as markup, with the tags of templates kept as they are. -/
def compile (options : Options) (text : String) : String :=
  let masked := mask text.toList
  unmask masked.tags (html options (String.ofList masked.text))

end Folio.Markdown
