import Folio.Resources
import Folio.Scope
import Folio.Template.Run

/-!
# Template engine

A template is expanded over the variables of a scope and of the site. Partials are templates that
other templates include; they are resolved in a directory of the resources like documents.

Main definitions:
- `Template.Engine`: what expands a text
- `Template.visible`: the variables that a template sees
- `Template.Partials`, `Template.engine`
-/

namespace Folio.Template

/-- What expands a text over the variables of a site and a scope. -/
abbrev Engine := String → Site → Scope → Except Fault String

/-- The variable that holds the variables of the site. -/
def siteKey : String := "site"

/-- The variables that a template sees: the site under its own name, which nothing else can take,
and those of the scope. -/
def visible (site : Site) (scope : Scope) : Variables :=
  scope.vars.insert siteKey site.vars.toValue

/-- Where partials are looked up. -/
structure Partials where
  resources : Resources
  directory : Path
  extensions : List String

namespace Partials

/-- The path below the directory that a name stands for. Slashes in front of it do not count. -/
def logicalPath (directory : Path) (name : String) : Path :=
  directory.join (Path.ofString (String.ofList (name.toList.dropWhile (· == '/'))))

/-- The source of the partial with a name, if there is one. -/
def load (partials : Partials) (name : String) : Except Fault (Option String) :=
  match partials.resources.resolve (logicalPath partials.directory name) partials.extensions with
  | none => .ok none
  | some path =>
      match partials.resources.readText path with
      | .ok text => .ok (some text)
      | .error _ => .error (.unreadable name)

end Partials

/-- The engine with the given partials, or with none. -/
def engine (partials : Option Partials) : Engine := fun source site scope =>
  let load (name : String) : Except Fault (Option String) :=
    match partials with
    | none => .ok none
    | some partials => partials.load name
  expand load ((visible site scope).entries.map fun (k, v) => (k, .ofValue v)) source

end Folio.Template
