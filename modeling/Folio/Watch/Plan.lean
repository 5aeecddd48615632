import Folio.Watch.Category

/-!
# What changes ask for

Main definitions:
- `Plan`, `Plan.ofPaths`
-/

namespace Folio

/-- What a batch of changes asks for. -/
structure Plan where
  reloadConfig : Bool := false
  reloadScripts : Bool := false
  renderAll : Bool := false
  /-- The absolute paths of changed documents. -/
  changedContent : List Path := []
deriving DecidableEq, Inhabited

namespace Plan

/-- A plan with what one changed file asks for. -/
def note (fs : FileSystem) (config : Config) (plan : Plan) (path : Path) : Plan :=
  let category := config.categorize fs path
  let plan := { plan with renderAll := plan.renderAll || category.affectsAll }
  match category with
  | .settings => { plan with reloadConfig := true }
  | .script => { plan with reloadScripts := true }
  | .content => { plan with changedContent := plan.changedContent ++ [fs.absolute path] }
  | .layout | .includable | .unknown => plan

/-- What changed files ask for. -/
def ofPaths (fs : FileSystem) (config : Config) (paths : List Path) : Plan :=
  paths.foldl (note fs config) {}

/-- Whether nothing is asked for. -/
def isEmpty (plan : Plan) : Bool := !plan.renderAll && plan.changedContent.isEmpty

end Plan

end Folio
