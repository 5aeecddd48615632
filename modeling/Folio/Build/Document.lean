import Folio.Console
import Folio.Render

/-!
# Rendering to files

Documents are rendered on the files as they are at that moment, and written.

Main definitions:
- `Workspace`, `Work`
- `DocumentError`
- `renderTo`: one document to one file
-/

namespace Folio

/-! ## Section 1: Failures -/

/-- Why a document is not rendered to its file. -/
inductive DocumentError where
  | render (cause : RenderError)
  /-- A logical path names no document. -/
  | notFound (logical : String)
  | noDirectory (path : Path) (cause : IoError)
  | notWritten (path : Path) (cause : IoError)
deriving DecidableEq, Inhabited

namespace DocumentError

/-- The wordings of an error and of the causes behind it. -/
def messages : DocumentError → List String
  | .render cause => cause.messages
  | .notFound logical => ["template not found: \x60" ++ logical ++ "\x60"]
  | .noDirectory path cause =>
      ["Failed to create directory: " ++ path.display, cause.message]
  | .notWritten path cause => ["Failed to write " ++ path.display, cause.message]

/-- The wording of an error with its causes. -/
def fullMessage (e : DocumentError) : String := ": ".intercalate e.messages

end DocumentError

/-! ## Section 2: Work on files -/

/-- Files, compilers with a state of type `S`, and what the user has been told. -/
structure Workspace (S : Type) where
  fs : FileSystem
  compilers : S
  notices : List Notice := []

/-- Work that can fail; what was done before stays. -/
abbrev Work (S ε α : Type) := Step (Workspace S) ε α

namespace Work

variable {S ε α : Type}

/-- Tell the user something. -/
def tell (notice : Notice) : Work S ε Unit :=
  modify fun w => { w with notices := w.notices ++ [notice] }

/-- Change the files, or fail for a cause. -/
def onFiles (refusal : IoError → ε) (change : FileSystem → Except IoError FileSystem) :
    Work S ε Unit := do
  let w ← get
  match change w.fs with
  | .ok fs => set { w with fs }
  | .error cause => throw (refusal cause)

/-- Render on the files as they are. -/
def render (refusal : RenderError → ε) (pipelineAt : FileSystem → Pipeline S)
    (rendering : Pipeline S → Rendering S α) : Work S ε α := do
  let w ← get
  let (result, compilers) := (rendering (pipelineAt w.fs)).run.run w.compilers
  set { w with compilers }
  match result with
  | .ok a => return a
  | .error e => throw (refusal e)

end Work

/-- Render the document with exactly this path to a file. -/
def renderTo {S : Type} (pipelineAt : FileSystem → Pipeline S) (source target : Path)
    (vars : Variables) : Work S DocumentError Unit := do
  let page ← Work.render .render pipelineAt fun p => p.renderPath source vars
  match target.parent? with
  | some parent => Work.onFiles (.noDirectory parent) fun fs => fs.createDirectories parent
  | none => pure ()
  Work.onFiles (.notWritten target) fun fs => fs.writeText target page

end Folio
