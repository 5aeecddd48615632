import Folio.Markdown.Block
import Folio.Path
import Folio.Resources
import Folio.Scope

/-!
# Settings

The settings of a project: the variables of the site, where documents come from and where they go,
the compilers, and watching. All have a default, except for what belongs to a script.

Main definitions:
- `Config`, with `BuildConfig`, `MarkdownConfig`, `ScriptConfig`, `CompilersConfig`, `WatchConfig`
- `ConfigFault`, `ConfigError`: why settings are refused
-/

namespace Folio

/-! ## Section 1: Sections -/

/-- The default directory of the layouts. -/
def defaultLayouts : String := "_layouts"

/-- The default directory of the partials. -/
def defaultIncludes : String := "_includes"

/-- The default extensions of Markdown. -/
def markdownExtensions : List String := ["md", "markdown"]

/-- Where documents come from and where they go. -/
structure BuildConfig where
  /-- The directory of the documents. -/
  root : Path := .ofString "."
  /-- The directory of the layouts, as seen from the root. -/
  layouts : Path := .ofString defaultLayouts
  /-- The directory of the partials, as seen from the root. -/
  includes : Path := .ofString defaultIncludes
  /-- The directory that a build writes. -/
  output : Path := .ofString "public"
  /-- Whether a build first removes what is in that directory. -/
  clean : Bool := false
  /-- The extensions that are tried for documents, layouts and partials. -/
  extensions : List String := defaultExtensions
deriving DecidableEq, Inhabited

/-- Markdown as a compiler. -/
structure MarkdownConfig where
  /-- Whether there is Markdown at all. -/
  enable : Bool := true
  options : Markdown.Options := {}
  extensions : List String := markdownExtensions
deriving DecidableEq, Inhabited

/-- A script as a compiler. -/
structure ScriptConfig where
  /-- The name in messages. -/
  name : String
  extensions : List String
  program : Path
  /-- The global that holds the text. -/
  input : String := "source"
  /-- The global that can hold the result. -/
  output : String := "output"
deriving DecidableEq, Inhabited

/-- The compilers. -/
structure CompilersConfig where
  markdown : MarkdownConfig := {}
  scripts : List ScriptConfig := []
deriving DecidableEq, Inhabited

/-- Watching. -/
structure WatchConfig where
  /-- How long files must be left alone before changes are handled, in milliseconds. -/
  debounce : Nat := 300
deriving DecidableEq, Inhabited

/-- The settings of a project. -/
structure Config where
  /-- The file that holds the settings, once they are loaded. -/
  configPath : Path := ⟨[]⟩
  /-- The variables of the site. -/
  site : Variables := .empty
  build : BuildConfig := {}
  compilers : CompilersConfig := {}
  watch : WatchConfig := {}
deriving Inhabited

/-! ## Section 2: Failures -/

/-- A global of a script. -/
inductive ScriptGlobal where
  | input
  | output
deriving DecidableEq, Inhabited

/-- The setting that names a global. -/
def ScriptGlobal.setting : ScriptGlobal → String
  | .input => "input"
  | .output => "output"

/-- What is wrong with settings that can be read. -/
inductive ConfigFault where
  | rootNoDirectory (root : Path)
  | noExtensions
  | badExtension (extension : String)
  | layoutsOutside
  | includesOutside
  | unnamedScript
  | scriptWithoutExtensions (script : String)
  /-- Two scripts have an extension in common. -/
  | claimedExtension (script extension : String)
  | noProgram (script : String) (program : Path)
  | badGlobal (script : String) (which : ScriptGlobal) (name : String)
  | sameGlobals (script : String)
  /-- A fault in the words of who found it. -/
  | stated (words : String)
deriving DecidableEq, Inhabited

/-- A text between grave accents. -/
def tickedText (s : String) : String := "\x60" ++ s ++ "\x60"

namespace ConfigFault

/-- How a script is named in messages. -/
def scriptField (script : String) : String := "[compilers.script] " ++ tickedText script

/-- The wording of a fault. -/
def message : ConfigFault → String
  | .rootNoDirectory root => "[build.root] " ++ tickedText root.display ++ " is not a directory"
  | .noExtensions => "[build.extensions] must have at least one element"
  | .badExtension extension =>
      "[build.extensions] entry " ++ tickedText extension ++ " must be empty or start with \x60.\x60"
  | .layoutsOutside => "[build.layouts] must be a relative path inside [build.root]"
  | .includesOutside => "[build.includes] must be a relative path inside [build.root]"
  | .unnamedScript => "[compilers.script] name must not be empty"
  | .scriptWithoutExtensions script => scriptField script ++ " must have at least one extension"
  | .claimedExtension script extension =>
      scriptField script ++ ": extension " ++ tickedText extension
        ++ " is already claimed by another script"
  | .noProgram script program =>
      scriptField script ++ ": program " ++ tickedText program.display ++ " not found"
  | .badGlobal script which name =>
      scriptField script ++ ": " ++ which.setting ++ " " ++ tickedText name
        ++ " is not a valid Lua identifier"
  | .sameGlobals script => scriptField script ++ ": input and output must differ"
  | .stated words => words

end ConfigFault

/-- Why settings cannot be used. -/
inductive ConfigError where
  | unreadable (path : Path) (cause : IoError)
  /-- The text is malformed, or holds what is no setting. -/
  | malformed
  /-- The text of a file is malformed. -/
  | malformedFile (path : Path)
  | invalid (fault : ConfigFault)
deriving DecidableEq, Inhabited

namespace ConfigError

/-- The wording of an error, without its cause. -/
def message : ConfigError → String
  | .unreadable path _ => "cannot read config " ++ tickedText path.display
  | .malformed => "invalid TOML"
  | .malformedFile path => "invalid TOML in " ++ tickedText path.display
  | .invalid fault => "invalid config: " ++ fault.message

/-- The wordings of an error and of the causes behind it. Where a malformed text goes wrong is left
out. -/
def messages (e : ConfigError) : List String :=
  e.message :: match e with
    | .unreadable _ cause => [cause.message]
    | _ => []

/-- An error with the file that a malformed text is from. -/
def inFile (path : Path) : ConfigError → ConfigError
  | .malformed => .malformedFile path
  | e => e

end ConfigError

end Folio
