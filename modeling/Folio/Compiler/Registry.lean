import Folio.Compiler.Script
import Folio.Markdown

/-!
# Compiler registry

Which compiler converts a file, by the extension of its name: Markdown, a script, or none, which
leaves the text as it is. An extension counts without dots in front and without ASCII case; the last
registration of one counts.

Main definitions:
- `Registry`, `Registry.register`, `Registry.registerScript`
- `Registry.choice`: the compiler for a file
- `Registry.compile`, `Registry.reloadScripts`
-/

namespace Folio

/-- What converts the files with an extension. -/
inductive Converter where
  | markdown (options : Markdown.Options)
  /-- The script with a number. -/
  | script (index : Nat)
deriving DecidableEq, Inhabited

/-- An extension as the registry compares it. -/
def normalExtension (extension : String) : String :=
  String.ofList ((extension.toList.dropWhile (· == '.')).map Char.toLower)

/-- The compilers of a site, by extension. -/
structure Registry (R : Type) where
  /-- The registrations, the last one first. -/
  converters : List (String × Converter) := []
  /-- The scripts in the order of their registration. -/
  scripts : List (Script R) := []
deriving DecidableEq

namespace Registry

variable {R : Type}

/-- No compilers. -/
def empty : Registry R := {}

/-- Register a compiler for extensions. -/
def register (registry : Registry R) (extensions : List String) (converter : Converter) :
    Registry R :=
  { registry with
    converters := extensions.foldl (fun acc e => (normalExtension e, converter) :: acc)
      registry.converters }

/-- Register a script for extensions. -/
def registerScript (registry : Registry R) (extensions : List String) (script : Script R) :
    Registry R :=
  let registered := registry.register extensions (.script registry.scripts.length)
  { registered with scripts := registered.scripts ++ [script] }

/-- Markdown for its usual extensions. -/
def withDefaults : Registry R := empty.register ["md", "markdown"] (.markdown {})

/-- The first registration of an extension in a list. -/
def lookup (extension : String) : List (String × Converter) → Option Converter
  | [] => none
  | (e, converter) :: rest => if e = extension then some converter else lookup extension rest

/-- The compiler for a file, if it has one. -/
def choice (registry : Registry R) (file : Path) : Option Converter :=
  match file.extension?.bind Name.text? with
  | none => none
  | some extension => lookup (normalExtension extension) registry.converters

/-- The conversion of a text by the compiler for its file, and the registry after it. -/
def compile (language : ScriptLanguage R) (registry : Registry R) (file : Path) (text : String)
    (site : Site) : Except CompileError String × Registry R :=
  match registry.choice file with
  | none => (.ok text, registry)
  | some (.markdown options) => (.ok (Markdown.compile options text), registry)
  | some (.script index) =>
      match registry.scripts[index]? with
      | none => (.ok text, registry)
      | some script =>
          let (result, script) := script.compile language file text site
          (result, { registry with scripts := registry.scripts.set index script })

/-- Read the programs of scripts again, up to the first that fails. -/
def reloadAll (language : ScriptLanguage R) (fs : FileSystem) :
    List (Script R) → Except CompileError Unit × List (Script R)
  | [] => (.ok (), [])
  | script :: rest =>
      match script.reload language fs with
      | .error e => (.error e, script :: rest)
      | .ok script =>
          let (result, rest) := reloadAll language fs rest
          (result, script :: rest)

/-- Read the programs of all scripts again. Those before one that fails stay reloaded. -/
def reloadScripts (language : ScriptLanguage R) (fs : FileSystem) (registry : Registry R) :
    Except CompileError Unit × Registry R :=
  let (result, scripts) := reloadAll language fs registry.scripts
  (result, { registry with scripts })

end Registry

end Folio
