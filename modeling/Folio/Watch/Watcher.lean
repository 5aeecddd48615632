import Folio.Console
import Folio.Watch.Category

/-!
# Asking for changes

A watcher reports changes of what it was asked to watch. It is asked for one target after the other,
for a directory with everything below it and for a file alone, and may refuse; the first refusal is
the last request.

Main definitions:
- `Watcher`, `WatchMode`
- `Watcher.setUp`: how asking for targets goes
- `watchNotices`: what the user is told of it
-/

namespace Folio

/-! ## Section 1: Watchers -/

/-- How much a watcher is asked to watch. -/
inductive WatchMode where
  /-- A directory with everything below it. -/
  | recursive
  /-- What the path leads to, and nothing below it. -/
  | alone
deriving DecidableEq, Inhabited

/-- How a target is watched. -/
def WatchMode.ofTarget (isDirectory : Bool) : WatchMode :=
  if isDirectory then .recursive else .alone

/-- Something that can be asked to watch paths, with a state of its own. -/
structure Watcher (W : Type) where
  /-- Whether a request is accepted, and the watcher after it. -/
  watch : Path → WatchMode → W → Bool × W

/-- What cannot be watched. -/
structure WatchError where
  path : Path
deriving DecidableEq, Inhabited

/-- The wording of an error. -/
def WatchError.message (e : WatchError) : String := "Failed to watch " ++ e.path.display

/-! ## Section 2: Targets -/

/-- How asking for targets went. -/
structure Watching (W : Type) where
  result : Except WatchError Unit
  /-- What the user is told. -/
  notices : List Notice
  /-- The watcher, after what it was asked for. -/
  watcher : W

/-- What the user is told of a target that is watched. -/
def watchNotice (root target : Path) : Notice :=
  .log "watch" ("watching " ++ target.shownBelow root)

/-- Ask for targets, one after the other, up to the first that is refused. -/
def Watcher.setUp {W : Type} (watcher : Watcher W) (root : Path) :
    List (Path × Bool) → W → Watching W
  | [], w => { result := .ok (), notices := [], watcher := w }
  | (path, isDirectory) :: rest, w =>
      let (accepted, w) := watcher.watch path (.ofTarget isDirectory) w
      if accepted then
        let later := watcher.setUp root rest w
        { later with notices := watchNotice root path :: later.notices }
      else { result := .error ⟨path⟩, notices := [], watcher := w }

/-- A watcher that accepts some paths, whatever else it was asked. -/
def Watcher.accepting (accepts : Path → Bool) : Watcher Unit where
  watch := fun path _ _ => (accepts path, ())

/-- What the user is told of targets that are watched, up to the first that is refused. -/
def watchNotices (accepts : Path → Bool) (root : Path) (targets : List (Path × Bool)) :
    Except WatchError Unit × List Notice :=
  let watching := (Watcher.accepting accepts).setUp root targets ()
  (watching.result, watching.notices)

end Folio
