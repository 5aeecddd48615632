import Folio.Compiler.Registry
import Folio.Config.Basic
import Folio.Render

/-!
# The renderer of a project

What the settings of a project say about rendering, with the compilers loaded. Documents, layouts
and partials are read from the root when they are needed, so a renderer follows the files.

Main definitions:
- `Registry.ofConfig`
- `Renderer`, `Renderer.ofConfig`
- `Renderer.pipeline`: rendering on the files as they are
-/

namespace Folio

namespace Registry

variable {R : Type}

/-- Add scripts, up to the first that cannot be loaded. -/
def addScripts (language : ScriptLanguage R) (fs : FileSystem) (root : Path) :
    Registry R → List ScriptConfig → Except CompileError (Registry R)
  | registry, [] => .ok registry
  | registry, script :: rest =>
      match Script.load language fs script.name (root.join script.program) script.input
          script.output with
      | .error e => .error e
      | .ok loaded =>
          addScripts language fs root (registry.registerScript script.extensions loaded) rest

/-- The compilers that settings name: Markdown, then the scripts. -/
def ofConfig (language : ScriptLanguage R) (fs : FileSystem) (root : Path)
    (config : CompilersConfig) : Except CompileError (Registry R) :=
  let markdown := config.markdown
  let base : Registry R :=
    if markdown.enable then empty.register markdown.extensions (.markdown markdown.options)
    else empty
  addScripts language fs root base config.scripts

end Registry

/-- What a project says about rendering, with its compilers. -/
structure Renderer (R : Type) where
  /-- The directory of the documents. -/
  root : Path
  layouts : Path
  includes : Path
  extensions : List String
  site : Site
  registry : Registry R

namespace Renderer

variable {R : Type}

/-- The renderer of a project. -/
def ofConfig (language : ScriptLanguage R) (fs : FileSystem) (config : Config) :
    Except CompileError (Renderer R) :=
  let build := config.build
  (Registry.ofConfig language fs build.root config.compilers).map fun registry =>
    { root := build.root, layouts := build.layouts, includes := build.includes,
      extensions := build.extensions, site := ⟨config.site⟩, registry }

/-- Rendering on the files as they are. -/
def pipeline (language : ScriptLanguage R) (renderer : Renderer R) (fs : FileSystem) :
    Pipeline (Registry R) :=
  let resources := Resources.disk fs renderer.root
  { resources
    compile := fun file text site registry => registry.compile language file text site
    engine := Template.engine (some
      { resources, directory := renderer.includes, extensions := renderer.extensions })
    extensions := renderer.extensions
    layouts := renderer.layouts
    site := renderer.site }

end Renderer

end Folio
