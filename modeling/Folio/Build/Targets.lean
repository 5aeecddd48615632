import Folio.Path

/-!
# Where documents go

A document goes to the file of the same name in the output directory, with the extension of a page.
Two documents may not go to the same file.

Main definitions:
- `Path.targetIn`
- `Targets.plan`
-/

namespace Folio

/-- The extension of every page. -/
def pageExtension : String := "html"

/-- The file that a document goes to. -/
def Path.targetIn (output document : Path) : Path :=
  (output.join document).withExtension pageExtension

/-- Two documents with the same target. -/
structure TargetClash where
  first : Path
  second : Path
  target : Path
deriving DecidableEq, Inhabited

/-- The wording of a clash. -/
def TargetClash.message (clash : TargetClash) : String :=
  "\x60" ++ clash.first.display ++ "\x60 and \x60" ++ clash.second.display
    ++ "\x60 both render to \x60" ++ clash.target.display ++ "\x60"

namespace Targets

/-- Give documents their targets, after those that have one. -/
def planAfter (output : Path) (planned : List (Path × Path)) :
    List Path → Except TargetClash (List (Path × Path))
  | [] => .ok planned
  | document :: rest =>
      let target := output.targetIn document
      match planned.find? fun (_, other) => target.equiv other with
      | some (first, _) => .error { first, second := document, target }
      | none => planAfter output (planned ++ [(document, target)]) rest

/-- Documents with their targets. The first document whose target is taken is refused. -/
def plan (output : Path) (documents : List Path) : Except TargetClash (List (Path × Path)) :=
  planAfter output [] documents

end Targets

end Folio
