import Folio.Value

/-!
# Variable scopes

The variables that one expansion sees: those of a document's front matter, overlaid with those of
its caller, and the place holder for wrapped content, which neither can replace.

Main definitions:
- `bodyPlaceholder`: what a layout leaves where the wrapped content goes
- `Scope.merge`: the scope of a document under a caller
-/

namespace Folio

/-- The variable that stands for wrapped content. -/
def bodyKey : String := "body"

/-- The text that a layout leaves where the wrapped content goes. -/
def bodyPlaceholder : String := "[[quire:body]]"

/-- The variables that one expansion sees. -/
structure Scope where
  vars : Variables
deriving Inhabited

namespace Scope

/-- The value of a variable. -/
def get? (scope : Scope) (name : String) : Option Value := scope.vars.get? name

/-- The scope of a document with its own variables under those of its caller, who wins. -/
def merge (own caller : Variables) : Scope :=
  ⟨(Variables.merge own caller).insert bodyKey (.str bodyPlaceholder)⟩

end Scope

/-- The variables that all documents of a site share. -/
structure Site where
  vars : Variables := .empty
deriving Inhabited

/-- The value of a site variable. -/
def Site.get? (site : Site) (name : String) : Option Value := site.vars.get? name

end Folio
