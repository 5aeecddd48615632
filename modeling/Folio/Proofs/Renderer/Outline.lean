import Folio.Proofs.Render.Compilers
import Folio.Renderer

/-!
# What settings say about a renderer

A renderer is settled by the settings but for the runtimes of its scripts, which hold programs as they
were when they were read, and whatever runs have left in them. Conversions and reading programs anew
change nothing else.

Main definitions:
- `Renderer.outline`: a renderer without runtimes
- `Config.outline`: what settings say about it

Main statements:
- `Renderer.outline_of_ofConfig`: a renderer that is made follows its settings
- `Registry.outline_compile`, `Registry.outline_reloadScripts`: what leaves the outline as it is
-/

namespace Folio

variable {R : Type} {language : ScriptLanguage R} {fs : FileSystem}

/-! ## Section 1: Without runtimes -/

/-- The name of a script, its program, and its globals. -/
def Script.outline (script : Script R) : Script Unit := { script with runtime := () }

/-- The registrations of compilers, and the scripts without their runtimes. -/
def Registry.outline (registry : Registry R) : Registry Unit where
  converters := registry.converters
  scripts := registry.scripts.map Script.outline

/-- The root, the directories, the extensions and the site of a renderer, and its compilers without
runtimes. -/
def Renderer.outline (renderer : Renderer R) : Renderer Unit :=
  { renderer with registry := renderer.registry.outline }

/-! ## Section 2: What settings say -/

/-- What settings say about a script, whose program is seen from a root. -/
def ScriptConfig.outline (root : Path) (script : ScriptConfig) : Script Unit where
  name := script.name
  program := some (root.join script.program)
  input := script.input
  output := script.output
  runtime := ()

/-- Compilers with those of scripts added, in their order. -/
def Registry.outlineScripts (root : Path) (registry : Registry Unit) (scripts : List ScriptConfig) :
    Registry Unit :=
  scripts.foldl (fun registry script => registry.registerScript script.extensions (script.outline root))
    registry

/-- What settings say about compilers. -/
def CompilersConfig.outline (root : Path) (config : CompilersConfig) : Registry Unit :=
  let markdown := config.markdown
  Registry.outlineScripts root
    (if markdown.enable then Registry.empty.register markdown.extensions (.markdown markdown.options)
      else .empty)
    config.scripts

/-- What settings say about a renderer. -/
def Config.outline (config : Config) : Renderer Unit where
  root := config.build.root
  layouts := config.build.layouts
  includes := config.build.includes
  extensions := config.build.extensions
  site := ⟨config.site⟩
  registry := config.compilers.outline config.build.root

theorem Registry.outline_registerScript (registry : Registry R) (extensions : List String)
    (script : Script R) :
    (registry.registerScript extensions script).outline
      = registry.outline.registerScript extensions script.outline := by
  simp [Registry.outline, registerScript, register]

theorem Script.outline_load {name input output : String} {program : Path} {script : Script R}
    (loaded : Script.load language fs name program input output = .ok script) :
    script.outline = { name, program := some program, input, output, runtime := () } := by
  unfold Script.load at loaded
  cases run : runtimeOf language fs program with
  | error e => simp [run, Except.map] at loaded
  | ok runtime =>
    rw [run] at loaded
    obtain rfl := Except.ok.inj loaded
    rfl

/-- Scripts that are loaded are added as settings say. -/
theorem Registry.outline_addScripts {root : Path} {scripts : List ScriptConfig}
    {registry registry' : Registry R}
    (added : addScripts language fs root registry scripts = .ok registry') :
    registry'.outline = outlineScripts root registry.outline scripts := by
  induction scripts generalizing registry with
  | nil =>
    obtain rfl := Except.ok.inj added
    rfl
  | cons script rest ih =>
    unfold addScripts at added
    split at added
    · cases added
    · rename_i loaded isLoaded
      rw [ih added, outline_registerScript, Script.outline_load isLoaded]
      rfl

theorem Registry.outline_of_ofConfig {root : Path} {config : CompilersConfig} {registry : Registry R}
    (made : Registry.ofConfig language fs root config = .ok registry) :
    registry.outline = config.outline root := by
  rw [outline_addScripts made, CompilersConfig.outline]
  -- Markdown has no runtime
  congr 1
  split <;> rfl

/-- Whenever a renderer is made from settings, and whatever files there are then, its outline is what
the settings say. -/
theorem Renderer.outline_of_ofConfig {config : Config} {renderer : Renderer R}
    (made : Renderer.ofConfig language fs config = .ok renderer) :
    renderer.outline = config.outline := by
  unfold Renderer.ofConfig at made
  dsimp only at made
  cases registry : Registry.ofConfig language fs config.build.root config.compilers with
  | error e => simp [registry, Except.map] at made
  | ok compilers =>
    rw [registry] at made
    obtain rfl := Except.ok.inj made
    rw [Renderer.outline, Config.outline, ← Registry.outline_of_ofConfig registry]

/-! ## Section 3: What leaves the outline as it is -/

theorem Script.outline_compile (script : Script R) (file : Path) (text : String) (site : Site) :
    (script.compile language file text site).2.outline = script.outline := by
  unfold Script.compile
  rcases (convert language script file text site).run.run script.runtime with
    ⟨_ | _ | _, runtime⟩ <;> rfl

/-- A conversion changes the runtime of a script alone. -/
theorem Registry.outline_compile (registry : Registry R) (file : Path) (text : String) (site : Site) :
    (registry.compile language file text site).2.outline = registry.outline := by
  unfold Registry.compile
  split
  · rfl
  · rfl
  · rename_i index _
    split
    · rfl
    · rename_i script found
      -- the script is put back in its own place
      obtain ⟨inRange, rfl⟩ := List.getElem?_eq_some_iff.mp found
      simp only [Registry.outline, List.map_set, Script.outline_compile]
      rw [← List.getElem_map Script.outline (h := by simpa using inRange), List.set_getElem_self]

theorem Script.outline_reload {script script' : Script R}
    (reloaded : script.reload language fs = .ok script') : script'.outline = script.outline := by
  unfold Script.reload at reloaded
  split at reloaded
  · obtain rfl := Except.ok.inj reloaded
    rfl
  · rename_i program _
    cases run : runtimeOf language fs program with
    | error e => simp [run, Except.map] at reloaded
    | ok runtime =>
      rw [run] at reloaded
      obtain rfl := Except.ok.inj reloaded
      rfl

theorem Registry.outline_reloadAll (language : ScriptLanguage R) (fs : FileSystem)
    (scripts : List (Script R)) :
    (reloadAll language fs scripts).2.map Script.outline = scripts.map Script.outline := by
  induction scripts with
  | nil => rfl
  | cons script rest ih =>
    unfold reloadAll
    split
    · rfl
    · rename_i script' reloaded
      simp only [List.map_cons, ih, Script.outline_reload reloaded]

/-- Reading programs anew changes runtimes alone, whether or not it succeeds. -/
theorem Registry.outline_reloadScripts (registry : Registry R) (language : ScriptLanguage R)
    (fs : FileSystem) :
    (registry.reloadScripts language fs).2.outline = registry.outline := by
  simp only [Registry.outline, reloadScripts, outline_reloadAll]

theorem Renderer.compilersKeep_outline (renderer : Renderer R) (fs : FileSystem)
    (outline : Registry Unit) :
    (renderer.pipeline language fs).CompilersKeep fun registry => registry.outline = outline :=
  fun file text registry same => (registry.outline_compile file text renderer.site).trans same

end Folio
