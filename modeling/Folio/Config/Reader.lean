import Folio.Config.Basic
import Folio.Toml

/-!
# Reading settings

A section of the settings is a table with known names, or a list of the values in the order of the
names. A name that is not known, a value of the wrong kind, and a missing value that has no default
make the settings malformed.

Main definitions:
- `Section.ofValue?`
- `Config.read?`: the settings that a text writes
-/

namespace Folio

/-! ## Section 1: Sections -/

/-- The values of a section by their names. -/
abbrev Section := List (String × Value)

namespace Section

/-- The section that a value writes, if it has no other names. -/
def ofValue? (names : List String) : Value → Option Section
  | .object entries => if entries.all fun (k, _) => names.contains k then some entries else none
  | .list values => some (names.zip values)
  | _ => none

/-- The setting of a name, or its default. -/
def get? {α : Type} (fields : Section) (name : String) (read : Value → Option α) (default : α) :
    Option α :=
  match Variables.lookup name fields with
  | none => some default
  | some v => read v

/-- The setting of a name that has no default. -/
def require? {α : Type} (fields : Section) (name : String) (read : Value → Option α) :
    Option α := (Variables.lookup name fields).bind read

end Section

/-! ## Section 2: Values -/

/-- A boolean. -/
def boolOf? : Value → Option Bool
  | .bool b => some b
  | _ => none

/-- A number that is not negative. -/
def naturalOf? : Value → Option Nat
  | .int n => if 0 ≤ n then some n.toNat else none
  | _ => none

/-- A path. -/
def pathOf? (v : Value) : Option Path := v.asString?.map Path.ofString

/-- A list. -/
def listOf? {α : Type} (read : Value → Option α) : Value → Option (List α)
  | .list items => items.mapM read
  | _ => none

/-- A list of texts. -/
def textsOf? : Value → Option (List String) := listOf? Value.asString?

/-- Variables. -/
def variablesOf? : Value → Option Variables
  | .object entries => some ⟨entries⟩
  | _ => none

/-! ## Section 3: Settings -/

/-- Where documents come from and where they go. -/
def BuildConfig.ofValue? (v : Value) : Option BuildConfig := do
  let fields ← Section.ofValue? ["root", "layouts", "includes", "output", "clean", "extensions"] v
  let d : BuildConfig := {}
  return { root := ← fields.get? "root" pathOf? d.root,
           layouts := ← fields.get? "layouts" pathOf? d.layouts,
           includes := ← fields.get? "includes" pathOf? d.includes,
           output := ← fields.get? "output" pathOf? d.output,
           clean := ← fields.get? "clean" boolOf? d.clean,
           extensions := ← fields.get? "extensions" textsOf? d.extensions }

/-- Markdown. -/
def MarkdownConfig.ofValue? (v : Value) : Option MarkdownConfig := do
  let fields ← Section.ofValue? ["enable", "gfm", "smart", "unsafe_html", "extensions"] v
  let d : MarkdownConfig := {}
  return { enable := ← fields.get? "enable" boolOf? d.enable,
           options :=
             { gfm := ← fields.get? "gfm" boolOf? d.options.gfm,
               smart := ← fields.get? "smart" boolOf? d.options.smart,
               unsafeHtml := ← fields.get? "unsafe_html" boolOf? d.options.unsafeHtml },
           extensions := ← fields.get? "extensions" textsOf? d.extensions }

/-- A script. -/
def ScriptConfig.ofValue? (v : Value) : Option ScriptConfig := do
  let fields ← Section.ofValue? ["name", "extensions", "program", "input", "output"] v
  let script : ScriptConfig :=
    { name := ← fields.require? "name" Value.asString?,
      extensions := ← fields.require? "extensions" textsOf?,
      program := ← fields.require? "program" pathOf? }
  return { script with
    input := ← fields.get? "input" Value.asString? script.input,
    output := ← fields.get? "output" Value.asString? script.output }

/-- The compilers. -/
def CompilersConfig.ofValue? (v : Value) : Option CompilersConfig := do
  let fields ← Section.ofValue? ["markdown", "script"] v
  return { markdown := ← fields.get? "markdown" MarkdownConfig.ofValue? {},
           scripts := ← fields.get? "script" (listOf? ScriptConfig.ofValue?) [] }

/-- Watching. -/
def WatchConfig.ofValue? (v : Value) : Option WatchConfig := do
  let fields ← Section.ofValue? ["debounce_ms"] v
  return { debounce := ← fields.get? "debounce_ms" naturalOf? ({} : WatchConfig).debounce }

namespace Config

/-- The settings that a text writes. -/
def read? (text : String) : Option Config := do
  let fields ← Section.ofValue? ["site", "build", "compilers", "watch"]
    (.object (← Toml.read? text))
  return { site := ← fields.get? "site" variablesOf? .empty,
           build := ← fields.get? "build" BuildConfig.ofValue? {},
           compilers := ← fields.get? "compilers" CompilersConfig.ofValue? {},
           watch := ← fields.get? "watch" WatchConfig.ofValue? {} }

/-- The settings that a text writes, or why it writes none. -/
def ofText (text : String) : Except ConfigError Config :=
  match read? text with
  | some config => .ok config
  | none => .error .malformed

end Config

end Folio
