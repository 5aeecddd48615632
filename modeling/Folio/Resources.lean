import Folio.FileSystem

/-!
# Resources and their resolution

Where documents, layouts and partials come from: anything that can say whether a path names a file
and give its text.

A logical path names a document without its extension. It is resolved by appending each extension
in order and taking the first result that names a file; a path that steps upwards names nothing.

Main definitions:
- `Resources`, `Resources.memory`, `Resources.disk`
- `Resources.resolve`: the file that a logical path names
- `Path.cleaned?`: the names along a path that does not step upwards
-/

namespace Folio

/-! ## Section 1: Resources -/

/-- Read access to files by their paths. -/
structure Resources where
  /-- Whether a path names a file. -/
  has : Path → Bool
  /-- The text of a file. -/
  readText : Path → Except IoError String
  /-- How many files there are. -/
  size : Nat

namespace Resources

/-- The first text kept under an equivalent path. -/
def lookupText (path : Path) : List (Path × String) → Option String
  | [] => none
  | (p, text) :: rest => if p.equiv path then some text else lookupText path rest

/-- Resources held in memory. -/
def memory (files : List (Path × String)) : Resources where
  has path := (lookupText path files).isSome
  readText path :=
    match lookupText path files with
    | some text => .ok text
    | none => .error (.noSuchResource path)
  size := files.length

/-- Resources served from a directory of a file system. -/
def disk (fs : FileSystem) (root : Path) : Resources where
  has path := fs.isFile (root.join path)
  readText path := fs.readText (root.join path)
  size := fs.entries.length

end Resources

/-! ## Section 2: Resolution -/

/-- The extensions that are tried if none are configured. The empty one comes first, so that a file
can also be named exactly. -/
def defaultExtensions : List String :=
  ["", ".html", ".md", ".markdown", ".txt", ".asciidoc", ".adoc"]

/-- The names along a path, without root and dots; nothing for a path that steps upwards or has no
name. -/
def Path.cleaned? (p : Path) : Option Path :=
  if p.components.contains .parent then none
  else if p.names = [] then none
  else some (Path.ofNames p.names)

/-- The file that a logical path names: the first extension that gives one wins. -/
def Resources.resolve (resources : Resources) (logical : Path) (extensions : List String) :
    Option Path :=
  match logical.cleaned? with
  | none => none
  | some clean => (extensions.map clean.append).find? resources.has

end Folio
