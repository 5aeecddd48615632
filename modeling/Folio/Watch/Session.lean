import Folio.Build.Document
import Folio.Build.Targets
import Folio.Renderer
import Folio.Watch.Plan

/-!
# Watching documents

A session keeps documents rendered. When files change it reads again what has to be read again and
renders the documents that can be affected. A failure is shown and leaves everything else as it is;
settings or scripts that fail to load leave the old ones in place.

Main definitions:
- `Session`, `Session.start`
- `Session.renderAll`, `Session.handleChanges`
-/

namespace Folio

/-- What is being watched, and with what. -/
structure Session (R : Type) where
  commandLine : CommandLine
  config : Config
  renderer : Renderer R
  /-- The logical paths of the documents. -/
  documents : List String
  vars : Variables

namespace Session

variable {R : Type}

/-! ## Section 1: Rendering -/

/-- A session over files, with what the user has been told. -/
structure State (R : Type) where
  fs : FileSystem
  session : Session R
  notices : List Notice := []

/-- Tell the user something. -/
def State.tell (state : State R) (notice : Notice) : State R :=
  { state with notices := state.notices ++ [notice] }

/-- Render the document that a logical path names to its target. -/
def renderDocument (pipelineAt : FileSystem → Pipeline (Registry R)) (output : Path)
    (vars : Variables) (logical : String) : Work (Registry R) DocumentError Unit := do
  let w ← get
  match (pipelineAt w.fs).resolve (Path.ofString logical) with
  | none => throw (.notFound logical)
  | some source => renderTo pipelineAt source (output.targetIn source) vars

/-- Render documents: the first that failed, with why. -/
def renderDocuments (render : String → Work (Registry R) DocumentError Unit)
    (w : Workspace (Registry R)) :
    List String → Option (String × DocumentError) × Workspace (Registry R)
  | [] => (none, w)
  | logical :: rest =>
      let (result, w) := (render logical).run.run w
      let (failure, w) := renderDocuments render w rest
      match result with
      | .error e => (some (logical, e), w)
      | .ok () => (failure, w)

/-- Render documents, and say how it went. -/
def render (language : ScriptLanguage R) (documents : List String) (state : State R) : State R :=
  let session := state.session
  let (failure, w) := renderDocuments
    (renderDocument (session.renderer.pipeline language) session.config.build.output
      session.vars)
    { fs := state.fs, compilers := session.renderer.registry } documents
  let notice := match failure with
    | some (logical, e) => .failure ("failed: " ++ logical) e.fullMessage
    | none => .success ("rendered: " ++ ", ".intercalate documents)
  let renderer := { session.renderer with registry := w.compilers }
  { state with fs := w.fs, session := { session with renderer } }.tell notice

/-- Render all documents. -/
def renderAll (language : ScriptLanguage R) (state : State R) : State R :=
  render language state.session.documents state

/-! ## Section 2: Changes -/

/-- Read the settings and the scripts anew; if that fails, the wording of why. -/
def reloadConfig (language : ScriptLanguage R) (fs : FileSystem) (session : Session R) :
    Except String (Session R) :=
  match Config.load fs session.commandLine with
  | .error e => .error (": ".intercalate ("Failed to reload config" :: e.messages))
  | .ok config =>
      match Renderer.ofConfig language fs config with
      | .error e => .error (": ".intercalate ("Failed to load compilers" :: e.messages))
      | .ok renderer => .ok { session with config, renderer }

/-- Read the programs of the scripts anew. -/
def reloadScripts (language : ScriptLanguage R) (fs : FileSystem) (session : Session R) :
    Except CompileError Unit × Session R :=
  let (result, registry) := session.renderer.registry.reloadScripts language fs
  (result, { session with renderer := { session.renderer with registry } })

/-- Do what a plan says about reading anew; nothing if that fails. -/
def reload (language : ScriptLanguage R) (plan : Plan) (state : State R) :
    Bool × State R :=
  if plan.reloadConfig then
    match state.session.reloadConfig language state.fs with
    | .error why => (false, state.tell (.failure "config reload failed" why))
    | .ok session => (true, { state with session })
  else if plan.reloadScripts then
    let (result, session) := state.session.reloadScripts language state.fs
    let state := { state with session }
    match result with
    | .error e => (false, state.tell (.failure "script reload failed" e.message))
    | .ok () => (true, state)
  else (true, state)

/-- The documents whose file is among changed ones. -/
def affected (language : ScriptLanguage R) (root : Path) (plan : Plan) (state : State R) :
    List String :=
  let pipeline := state.session.renderer.pipeline language state.fs
  state.session.documents.filter fun logical =>
    match pipeline.resolve (Path.ofString logical) with
    | none => false
    | some source =>
        let path := state.fs.absolute (root.join source)
        plan.changedContent.any fun changed => changed.equiv path

/-- Handle a batch of changes. -/
def handleChanges (language : ScriptLanguage R) (paths : List Path) (state : State R) : State R :=
  let plan := Plan.ofPaths state.fs state.session.config paths
  if plan.isEmpty then state
  else
    let root := state.session.config.build.root
    let trigger := ", ".intercalate (paths.map fun p => p.shownBelow root)
    let state := (state.tell .detach).tell (.log "watch" (trigger ++ " changed"))
    let (loaded, state) := reload language plan state
    if !loaded then state
    else if plan.renderAll then renderAll language state
    else
      let documents := affected language root plan state
      if documents.isEmpty then state else render language documents state

end Session

end Folio
