import Folio.Build
import Folio.CommandLine.Help
import Folio.Watch.Session
import Folio.Watch.Watcher

/-!
# The program

What a command line does to files, as a whole: what is printed, what the user is told, and the files
afterwards. A watch is only begun; it goes on with every batch of changes.

Main definitions:
- `Program.Report`: how a command ended
- `Program.run`
-/

namespace Folio.Program

variable {R : Type}

/-! ## Section 1: Reports -/

/-- How a command ended. -/
structure Report where
  /-- The exit status. -/
  status : Nat := 0
  /-- What was printed. -/
  output : String := ""
  /-- Why the command failed: the wording, and the causes behind it. -/
  errors : List String := []
  notices : List Notice := []
  fs : FileSystem

/-- A failure with its causes. -/
def Report.failed (fs : FileSystem) (errors : List String) : Report := { status := 1, errors, fs }

/-- A failure with its causes one below the other. -/
def causeLines : List String → List String
  | [] => []
  | [message] => ["Error: " ++ message]
  | [message, cause] => ["Error: " ++ message, "", "Caused by:", "    " ++ cause]
  | message :: causes =>
      ["Error: " ++ message, "", "Caused by:"]
        ++ causes.zipIdx.map fun (cause, i) => "    " ++ toString i ++ ": " ++ cause

/-! ## Section 2: Commands -/

/-- Render documents one after the other up to the first that fails: the pages back to back, and
the failure. -/
def renderPages {S : Type} (pipeline : Pipeline S) (vars : Variables) :
    List String → S → String × Option (String × RenderError)
  | [], _ => ("", none)
  | path :: rest, state =>
      let (result, state) := (pipeline.render (Path.ofString path) vars).run.run state
      match result with
      | .error e => ("", some (path, e))
      | .ok page =>
          let (pages, failure) := renderPages pipeline vars rest state
          (page ++ pages, failure)

/-- Render documents and print the pages. -/
def render (language : ScriptLanguage R) (fs : FileSystem) (renderer : Renderer R)
    (paths : List String) (vars : Variables) : Report :=
  let (output, failure) :=
    renderPages (renderer.pipeline language fs) vars paths renderer.registry
  match failure with
  | none => { output, fs }
  | some (path, e) =>
      { Report.failed fs (("Failed to render \x60" ++ path ++ "\x60") :: e.messages) with output }

/-- Build the site. -/
def build (language : ScriptLanguage R) (fs : FileSystem) (config : Config)
    (renderer : Renderer R) : Report :=
  let (result, w) := (buildSite (renderer.pipeline language) config).run.run
    { fs, compilers := renderer.registry }
  match result with
  | .ok _ => { notices := w.notices, fs := w.fs }
  | .error e => { Report.failed w.fs e.messages with notices := w.notices }

/-- Begin a watch: what is watched is told, and all documents are rendered. -/
def watch (language : ScriptLanguage R) (accepts : Path → Bool) (state : Session.State R) :
    Except WatchError Unit × Session.State R :=
  let config := state.session.config
  let (result, notices) :=
    watchNotices accepts config.build.root (config.watchTargets state.fs)
  let state := { state with notices := state.notices ++ notices }
  match result with
  | .error e => (.error e, state)
  | .ok () => (.ok (), Session.renderAll language state)

/-- Do what a command line asks for: how it ended, or the watch that it began. -/
def runCommand (language : ScriptLanguage R) (fs : FileSystem) (commandLine : CommandLine) :
    Except Report (Session.State R) :=
  match Config.load fs commandLine with
  | .error e => .error (Report.failed fs ("Failed to load config" :: e.messages))
  | .ok config =>
      match Renderer.ofConfig language fs config with
      | .error e => .error (Report.failed fs ("Failed to load compilers" :: e.messages))
      | .ok renderer =>
          let vars := commandLine.vars
          match commandLine.command with
          | .render paths _ => .error (render language fs renderer paths vars)
          | .build .. => .error (build language fs config renderer)
          | .watch documents _ =>
              let count := toString documents.length
              let notice := .log "watch" ("watching " ++ count ++ " documents")
              let session := { commandLine, config, renderer, documents, vars }
              let (result, state) :=
                watch language fs.pathExists { fs, session, notices := [notice] }
              match result with
              | .ok () => .ok state
              | .error e =>
                  .error { Report.failed state.fs [e.message] with notices := state.notices }

/-- Do what arguments ask for: how it ended, or the watch that it began. -/
def run (language : ScriptLanguage R) (fs : FileSystem) (arguments : List String) :
    Except Report (Session.State R) :=
  match CommandLine.parse arguments with
  | .ok commandLine => runCommand language fs commandLine
  | .error e =>
      match e.helpText? with
      | some output => .error { output, fs }
      | none => .error { status := 2, errors := [], notices := [], fs }

end Folio.Program
