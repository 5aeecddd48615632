import Folio.Config.Load

/-!
# What a changed file means

A changed file is the settings, the program of a script, a layout, a partial, a document, or nothing
that counts. The first of these that it can be is what it is.

Main definitions:
- `Category`, `Config.categorize`
- `Config.watchTargets`: what has to be watched
-/

namespace Folio

/-- What a changed file means. -/
inductive Category where
  | settings
  | script
  | layout
  | includable
  | content
  | unknown
deriving DecidableEq, Inhabited

namespace Category

/-- Whether a change can show in every document. -/
def affectsAll : Category → Bool
  | .settings | .script | .layout | .includable => true
  | .content | .unknown => false

/-- The name of a category. -/
def name : Category → String
  | .settings => "Config"
  | .script => "Script"
  | .layout => "Layout"
  | .includable => "Partial"
  | .content => "Content"
  | .unknown => "Unknown"

end Category

namespace Config

/-- What an absolute path means. What a build writes counts as nothing. -/
def categoryOf (config : Config) (path : Path) : Category :=
  let build := config.build
  if path.equiv config.configPath then .settings
  else if config.compilers.scripts.any fun script => script.program.equiv path then .script
  else if path.startsWith build.output then .unknown
  else if path.startsWith (build.root.join build.layouts) then .layout
  else if path.startsWith (build.root.join build.includes) then .includable
  else if path.startsWith build.root then .content
  else .unknown

/-- What a path means. -/
def categorize (fs : FileSystem) (config : Config) (path : Path) : Category :=
  config.categoryOf (fs.absolute path)

/-- What has to be watched, and whether it is a directory: the root, and the files outside it that
count. -/
def watchTargets (fs : FileSystem) (config : Config) : List (Path × Bool) :=
  let root := config.build.root
  let files := config.compilers.scripts.map ScriptConfig.program ++ [config.configPath]
  (root, true) :: (files.filter fun file => !file.startsWith root && fs.pathExists file).map
    fun file => (file, false)

end Config

/-- A path as it is shown below a directory. -/
def Path.shownBelow (p directory : Path) : String := ((p.stripPrefix? directory).getD p).display

end Folio
