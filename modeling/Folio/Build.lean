import Folio.Build.Document
import Folio.Build.Documents
import Folio.Build.Targets

/-!
# Building a site

All documents of a site are rendered to the output directory, which is emptied first if the
settings say so. The first document that fails ends the build.

Main definitions:
- `BuildError`
- `buildSite`, `buildSiteBy`: with the documents as they are listed, or in any order
-/

namespace Folio

/-- Why a site is not built. -/
inductive BuildError where
  | notCleared (output : Path) (cause : IoError)
  | notCreated (output : Path) (cause : IoError)
  | clash (found : TargetClash)
  | document (cause : DocumentError)
deriving DecidableEq, Inhabited

/-- The wordings of an error and of the causes behind it. -/
def BuildError.messages : BuildError → List String
  | .notCleared output cause =>
      ["Failed to clear output directory: " ++ output.display, cause.message]
  | .notCreated output cause =>
      ["Failed to create output directory: " ++ output.display, cause.message]
  | .clash found => [found.message]
  | .document cause => cause.messages

variable {S : Type}

/-- Make the output directory, without what was in it if `clean` is set. -/
def prepareOutput (output : Path) (clean : Bool) : Work S BuildError Unit := do
  if clean && (← get).fs.pathExists output then
    Work.onFiles (.notCleared output) fun fs => fs.removeDirectories output
  Work.onFiles (.notCreated output) fun fs => fs.createDirectories output

/-- Render a document of a build. A failure is logged. -/
def buildDocument (pipelineAt : FileSystem → Pipeline S) (source target : Path) :
    Work S BuildError Unit := fun w =>
  let (result, w) := (renderTo pipelineAt source target .empty).run.run w
  match result with
  | .ok () => (.ok (), w)
  | .error e =>
      let notice := .log "error" (source.display ++ ": " ++ e.fullMessage)
      (.error (.document e), { w with notices := w.notices ++ [notice] })

/-- Render documents of a build one after the other. -/
def buildDocuments (pipelineAt : FileSystem → Pipeline S) :
    List (Path × Path) → Work S BuildError Unit
  | [] => pure ()
  | (source, target) :: rest => do
      buildDocument pipelineAt source target
      buildDocuments pipelineAt rest

/-- Build a site, with the documents in the order that `schedule` gives them: how many were
rendered. -/
def buildSiteBy (schedule : List (Path × Path) → List (Path × Path))
    (pipelineAt : FileSystem → Pipeline S) (config : Config) : Work S BuildError Nat := do
  let output := config.build.output
  prepareOutput output config.build.clean
  let documents := config.documents (← get).fs
  match Targets.plan output documents with
  | .error found => throw (.clash found)
  | .ok targets =>
      let count := toString targets.length
      Work.tell (.log "build" ("rendering " ++ count ++ " documents"))
      buildDocuments pipelineAt (schedule targets)
      Work.tell (.log "build" ("done, " ++ count ++ " files written to " ++ output.display))
      return targets.length

/-- Build a site, one document after the other as they are listed. -/
def buildSite (pipelineAt : FileSystem → Pipeline S) (config : Config) : Work S BuildError Nat :=
  buildSiteBy id pipelineAt config

end Folio
