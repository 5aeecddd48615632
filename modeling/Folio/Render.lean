import Folio.Compiler.Script
import Folio.FrontMatter
import Folio.Step
import Folio.Template
import Folio.Yaml

/-!
# Rendering

A document is resolved, read and split; its content is converted by a compiler and expanded over the
variables of its front matter and of the caller. If it names a layout, the layout is rendered in the
same way over the document's variables, and every place holder in the result is replaced by the
document.

Main definitions:
- `RenderError`: why a document cannot be rendered
- `Pipeline`: all that rendering needs
- `Pipeline.render`, `Pipeline.renderPath`
-/

namespace Folio

/-! ## Section 1: Failures -/

/-- Why a document cannot be rendered. -/
inductive RenderError where
  | templateNotFound (path : Path)
  | layoutNotFound (layout : String) (path : Path)
  /-- A layout is on the way to itself: the files from the document on. -/
  | layoutCycle (chain : List Path)
  | invalidLayout (path : Path)
  | io (path : Path) (cause : IoError)
  | frontMatter (path : Path) (cause : FrontMatterError)
  | compile (path : Path) (cause : CompileError)
  | expand (path : Path) (cause : Template.Fault)
deriving DecidableEq, Inhabited

namespace RenderError

/-- The file that an error is about; for a cycle, the last one. -/
def path? : RenderError → Option Path
  | .templateNotFound path | .layoutNotFound _ path | .invalidLayout path | .io path _
  | .frontMatter path _ | .compile path _ | .expand path _ => some path
  | .layoutCycle chain => chain.getLast?

/-- A path between grave accents. -/
def ticked (p : Path) : String := "\x60" ++ p.display ++ "\x60"

/-- The wording of an error, without its cause. -/
def message : RenderError → String
  | .templateNotFound path => "template not found: " ++ ticked path
  | .layoutNotFound layout path =>
      "layout \x60" ++ layout ++ "\x60 not found (referenced by " ++ ticked path ++ ")"
  | .layoutCycle chain => "layout cycle detected: " ++ " -> ".intercalate (chain.map Path.display)
  | .invalidLayout path => "\x60layout\x60 in " ++ ticked path ++ " must be a string"
  | .io path _ => "IO error when reading " ++ ticked path
  | .frontMatter path _ => "invalid front matter in " ++ ticked path
  | .compile path _ => "failed to compile " ++ ticked path
  | .expand path _ => "failed to expand " ++ ticked path

/-- The wordings of an error and of the causes behind it. The causes of a failed expansion and of a
failed program have no fixed wording and are left out. -/
def messages (e : RenderError) : List String :=
  e.message :: match e with
    | .io _ cause => [cause.message]
    | .frontMatter _ cause => [cause.message]
    | .compile _ cause => cause.messages
    | _ => []

end RenderError

/-! ## Section 2: The pipeline -/

/-- All that rendering needs. Compilers have a state of type `S`. -/
structure Pipeline (S : Type) where
  resources : Resources
  compile : Path → String → Site → StateM S (Except CompileError String)
  engine : Template.Engine
  /-- The extensions that are tried for documents and layouts. -/
  extensions : List String
  /-- The directory of the layouts. -/
  layouts : Path
  site : Site

/-- A rendering, which can fail and change the compilers. -/
abbrev Rendering (S α : Type) := Step S RenderError α

namespace Rendering

variable {S ε α β : Type}

/-- A result as a rendering, its failure told by `cause`. -/
def ofExcept (cause : ε → RenderError) (result : Except ε α) : Rendering S α :=
  match result with
  | .ok a => pure a
  | .error e => throw (cause e)

theorem ofExcept_ok (cause : ε → RenderError) (a : α) :
    (ofExcept cause (.ok a) : Rendering S α) = pure a := rfl

theorem ofExcept_error_bind (cause : ε → RenderError) (e : ε) (next : α → Rendering S β) :
    (ofExcept cause (.error e) >>= next : Rendering S β) = throw (cause e) := rfl

@[simp] theorem runFrom_ofExcept_ok (cause : ε → RenderError) (a : α) (s : S) :
    (ofExcept cause (.ok a)).runFrom s = (.ok a, s) := rfl

@[simp] theorem runFrom_ofExcept_error (cause : ε → RenderError) (e : ε) (s : S) :
    (ofExcept cause (.error e) : Rendering S α).runFrom s = (.error (cause e), s) := rfl

end Rendering

namespace Pipeline

variable {S : Type}

/-- The file that a logical path names. -/
def resolve (p : Pipeline S) (logical : Path) : Option Path :=
  p.resources.resolve logical p.extensions

/-- The path that a layout name stands for. Slashes in front of it do not count. -/
def layoutPath (p : Pipeline S) (name : String) : Path :=
  Template.Partials.logicalPath p.layouts name

/-- What a file gives before its layout is taken into account. -/
structure Expanded where
  /-- The layout that the front matter of the file names. -/
  layout? : Option Value
  /-- The variables that the file sees. -/
  scope : Scope
  /-- The expanded content. -/
  body : String

/-- Read, split, compile and expand a file. -/
def expandFile (p : Pipeline S) (path : Path) (caller : Variables) : Rendering S Expanded := do
  let text ← Rendering.ofExcept (.io path) (p.resources.readText path)
  let document ← Rendering.ofExcept (.frontMatter path)
    (FrontMatter.parse Yaml.readMapping? text)
  let scope := Scope.merge document.vars caller
  let compiled ← Rendering.ofExcept (.compile path)
    (← (p.compile path document.content p.site : StateM S _))
  let body ← Rendering.ofExcept (.expand path) (p.engine compiled p.site scope)
  return { layout? := document.layout?, scope, body }

/-- The file of the layout that a file names. -/
def layoutFile (p : Pipeline S) (path : Path) (layout : Value) : Except RenderError Path :=
  match layout with
  | .str name =>
      match p.resolve (p.layoutPath name) with
      | some file => .ok file
      | none => .error (.layoutNotFound name path)
  | _ => .error (.invalidLayout path)

/-- Render a file and the layouts around it. `chain` holds the files up to this one.

Every file of the chain is named by the front matter of the one before, so a chain without
repetition is at most one longer than there are files, and `fuel` above that is never used up. -/
def renderFile (p : Pipeline S) : Nat → Path → List Path → Variables → Rendering S String
  | 0, _, chain, _ => throw (.layoutCycle chain)
  | fuel + 1, path, chain, caller => do
      let expanded ← p.expandFile path caller
      match expanded.layout? with
      | none => return expanded.body
      | some layout =>
          let file ← Rendering.ofExcept id (p.layoutFile path layout)
          if chain.any file.equiv then throw (.layoutCycle (chain ++ [file]))
          else
            let wrapped ← p.renderFile fuel file (chain ++ [file]) expanded.scope.vars
            return Text.replaceAll bodyPlaceholder expanded.body wrapped

/-- How many files a chain has room for. -/
def depth (p : Pipeline S) : Nat := p.resources.size + 2

/-- Render the document that a logical path names, with room for `depth` files in its chain. -/
def renderWithin (p : Pipeline S) (depth : Nat) (logical : Path) (caller : Variables) :
    Rendering S String := do
  match p.resolve logical with
  | none => throw (.templateNotFound logical)
  | some path => p.renderFile depth path [path] caller

/-- Render the document that a logical path names. -/
def render (p : Pipeline S) (logical : Path) (caller : Variables) : Rendering S String :=
  p.renderWithin p.depth logical caller

/-- Render the file with exactly this path. -/
def renderPath (p : Pipeline S) (path : Path) (caller : Variables) : Rendering S String := do
  match p.resources.resolve path [""] with
  | none => throw (.templateNotFound path)
  | some exact => p.renderFile p.depth exact [exact] caller

end Pipeline

end Folio
