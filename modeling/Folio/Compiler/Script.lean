import Folio.FileSystem
import Folio.Scope
import Folio.Step
import Folio.Text.Quoted

/-!
# Script compilers

A compiler whose conversion is a program in some script language. The program is loaded once. Every
conversion binds the text, its path and the variables of the site to globals, clears the output
global, and runs the program; the result is what the program returns or else the output global. The
globals keep their values from one run to the next.

The language is a parameter.

Main definitions:
- `CompileError`: why a conversion fails
- `ScriptLanguage`: what is asked of a language
- `Script`, `Script.load`, `Script.ofSource`, `Script.reload`, `Script.compile`
- `Script.description`: a script on one line, for diagnostics
-/

namespace Folio

/-! ## Section 1: Failures -/

/-- Why a conversion fails, or why a program cannot be loaded. -/
inductive CompileError where
  /-- The program is malformed, failed, or gave something that is no text. -/
  | script
  | noOutput (program global : String)
  | unreadable (path : Path) (cause : IoError)
deriving DecidableEq, Inhabited

/-- The wording of an error. Details of a failed program are not shown. -/
def CompileError.message : CompileError → String
  | .script => "script error"
  | .noOutput program global =>
      "script \x60" ++ program ++ "\x60 produced no output (return a string or set \x60" ++ global
        ++ "\x60)"
  | .unreadable path _ => "IO error when reading script \x60" ++ path.display ++ "\x60"

/-- The wordings of an error and of the causes behind it. -/
def CompileError.messages (e : CompileError) : List String :=
  e.message :: match e with
    | .unreadable _ cause => [cause.message]
    | _ => []

/-! ## Section 2: Languages -/

/-- A program failed. -/
structure ScriptFailure where
deriving DecidableEq, Inhabited

/-- A step of a runtime, which can change it even if it fails. -/
abbrev RuntimeStep (R α : Type) := Step R ScriptFailure α

/-- A script language with runtimes of type `R`. A runtime holds one loaded program. -/
structure ScriptLanguage (R : Type) where
  /-- A fresh runtime with a program, which has a name for messages; nothing if it is malformed. -/
  load (name source : String) : Option R
  /-- Bind a global, or clear it. -/
  setGlobal (name : String) (value : Option Value) : RuntimeStep R Unit
  /-- Run the program for its result, which is a text or nothing. -/
  call : RuntimeStep R (Option String)
  /-- The text in a global, or nothing if it is not set. -/
  globalText? (name : String) : RuntimeStep R (Option String)

/-! ## Section 3: Scripts -/

/-- The global that holds the path of the text. -/
def sourcePathGlobal : String := "sourcePath"

/-- The global that holds the variables of the site. -/
def siteGlobal : String := "site"

/-- A compiler with a program of its own. -/
structure Script (R : Type) where
  name : String
  /-- The file of the program, if it has one. -/
  program : Option Path
  /-- The global that holds the text. -/
  input : String
  /-- The global that can hold the result. -/
  output : String
  runtime : R
deriving DecidableEq

namespace Script

variable {R : Type}

/-- A fresh runtime with the program in a file. -/
def runtimeOf (language : ScriptLanguage R) (fs : FileSystem) (program : Path) :
    Except CompileError R :=
  match fs.readText program with
  | .error cause => .error (.unreadable program cause)
  | .ok source =>
      match language.load program.display source with
      | none => .error .script
      | some runtime => .ok runtime

/-- The compiler whose program is in a file. -/
def load (language : ScriptLanguage R) (fs : FileSystem) (name : String) (program : Path)
    (input output : String) : Except CompileError (Script R) :=
  (runtimeOf language fs program).map fun runtime =>
    { name, program := some program, input, output, runtime }

/-- The compiler whose program is a text. -/
def ofSource (language : ScriptLanguage R) (name source input output : String) :
    Except CompileError (Script R) :=
  match language.load name source with
  | none => .error .script
  | some runtime => .ok { name, program := none, input, output, runtime }

/-- The compiler with its program read again. A program without a file stays. -/
def reload (language : ScriptLanguage R) (fs : FileSystem) (script : Script R) :
    Except CompileError (Script R) :=
  match script.program with
  | none => .ok script
  | some program => (runtimeOf language fs program).map fun runtime => { script with runtime }

/-- Bind the globals that a run of the program sees. -/
def bindGlobals (language : ScriptLanguage R) (script : Script R) (path : Path) (text : String)
    (site : Site) : RuntimeStep R Unit := do
  language.setGlobal script.input (some (.str text))
  language.setGlobal sourcePathGlobal (some (.str path.display))
  language.setGlobal siteGlobal (some site.vars.toValue)
  language.setGlobal script.output none

/-- Run the program over a text for its result. -/
def convert (language : ScriptLanguage R) (script : Script R) (path : Path) (text : String)
    (site : Site) : RuntimeStep R (Option String) := do
  bindGlobals language script path text site
  match ← language.call with
  | some result => return some result
  | none => language.globalText? script.output

/-- The conversion of a text, and the script after it. -/
def compile (language : ScriptLanguage R) (script : Script R) (path : Path) (text : String)
    (site : Site) : Except CompileError String × Script R :=
  let (result, runtime) := (convert language script path text site).run.run script.runtime
  let script' := { script with runtime }
  match result with
  | .error _ => (.error .script, script')
  | .ok (some output) => (.ok output, script')
  | .ok none => (.error (.noOutput script.name script.output), script')

/-- A script on one line, with its texts in quotes. What a runtime holds is not shown. -/
def description (script : Script R) : String :=
  let program := match script.program with
    | none => "None"
    | some program => "Some(" ++ Text.quoted program.display ++ ")"
  "ScriptCompiler \x7b name: " ++ Text.quoted script.name ++ ", program: " ++ program ++ ", input: "
    ++ Text.quoted script.input ++ ", output: " ++ Text.quoted script.output ++ ", .. \x7d"

end Script

end Folio
