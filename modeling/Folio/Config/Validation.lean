import Folio.Compiler.Registry
import Folio.Config.Basic

/-!
# Checking settings

What is asked of settings before they are used: the root is a directory, extensions have a dot, the
directories below the root stay there, and scripts have a name, extensions of their own, a program,
and two different globals. The first fault counts.

Main definitions:
- `Config.check`
-/

namespace Folio

/-! ## Section 1: Scripts -/

/-- Whether a name can be the name of a global: ASCII letters, digits and low lines, with no digit
in front. -/
def isGlobalName (name : String) : Bool :=
  match name.toList with
  | [] => false
  | c :: rest => (c.isAlpha || c = '_') && rest.all fun c => c.isAlphanum || c = '_'

/-- The first extension that is in a list already, or else the list with all of them. -/
def claim (claimed : List String) : List String → Except String (List String)
  | [] => .ok claimed
  | extension :: rest =>
      let extension := normalExtension extension
      if claimed.contains extension then .error extension else claim (extension :: claimed) rest

namespace ScriptConfig

/-- The first fault of a script, or else the extensions that are claimed with it. -/
def check (fs : FileSystem) (claimed : List String) (script : ScriptConfig) :
    Except ConfigFault (List String) := do
  if Text.isBlankText script.name.toList then throw .unnamedScript
  if script.extensions.isEmpty then throw (.scriptWithoutExtensions script.name)
  let claimed ← match claim claimed script.extensions with
    | .ok claimed => pure claimed
    | .error extension => throw (.claimedExtension script.name extension)
  if !fs.isFile script.program then throw (.noProgram script.name script.program)
  if !isGlobalName script.input then throw (.badGlobal script.name .input script.input)
  if !isGlobalName script.output then throw (.badGlobal script.name .output script.output)
  if script.input = script.output then throw (.sameGlobals script.name)
  return claimed

/-- The first fault of scripts. -/
def checkAll (fs : FileSystem) (claimed : List String) :
    List ScriptConfig → Except ConfigFault Unit
  | [] => .ok ()
  | script :: rest =>
      match script.check fs claimed with
      | .error fault => .error fault
      | .ok claimed => checkAll fs claimed rest

end ScriptConfig

/-! ## Section 2: Settings -/

/-- Whether a path stays below where it is seen from. -/
def Path.staysBelow (p : Path) : Bool :=
  p.components.all fun c => c = .current || c.name?.isSome

/-- Whether an extension is empty or has a dot in front. -/
def isDottedExtension (extension : String) : Bool :=
  extension.isEmpty || extension.toList.head? = some '.'

namespace Config

/-- The first fault of settings whose paths are resolved. -/
def check (fs : FileSystem) (config : Config) : Except ConfigFault Unit := do
  let build := config.build
  if !fs.isDirectory build.root then throw (.rootNoDirectory build.root)
  if build.extensions.isEmpty then throw .noExtensions
  match build.extensions.find? fun e => !isDottedExtension e with
  | some extension => throw (.badExtension extension)
  | none => pure ()
  if !build.layouts.staysBelow then throw .layoutsOutside
  if !build.includes.staysBelow then throw .includesOutside
  ScriptConfig.checkAll fs [] config.compilers.scripts

end Config

end Folio
