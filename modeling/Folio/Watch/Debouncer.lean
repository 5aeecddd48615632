import Folio.Path

/-!
# Collecting changes

Changes come in bursts. They are collected until files have been left alone for a while and are
then handled as one batch, each path once and in order. The files that editors make for themselves
do not count.

Main definitions:
- `FileEvent`, `FileEvent.isRelevant`
- `Debouncer`, with `add`, `isReady`, `take`, `timeout`
- `Debouncer.receive`: one step of the wait for changes
-/

namespace Folio

/-! ## Section 1: Events -/

/-- What happened to files. -/
inductive EventKind where
  | unspecified
  | access
  | create
  | modify
  | remove
  | other
deriving DecidableEq, Inhabited

/-- Something that happened to files. -/
structure FileEvent where
  kind : EventKind
  paths : List Path
deriving DecidableEq, Inhabited

/-- Whether an event is a change. -/
def FileEvent.isRelevant (event : FileEvent) : Bool :=
  match event.kind with
  | .create | .modify | .remove => true
  | .unspecified | .access | .other => false

/-- The extensions of files that editors make for themselves. -/
def temporaryExtensions : List String := ["bck", "bak", "backup", "swp", "swo", "tmp"]

/-- Whether a path is a file that an editor makes for itself, by its name. A name that is no text
has no such form. -/
def Path.isTemporary (p : Path) : Bool :=
  let extension := (p.extension?.bind Name.text?).getD ""
  let name := ((p.fileName?.bind Name.text?).getD "").toList
  temporaryExtensions.contains extension || name.getLast? = some '~' || name.head? = some '.'

/-! ## Section 2: The debouncer -/

/-- Put a path in its place, unless one that means the same is there. -/
def insertPath (p : Path) : List Path → List Path
  | [] => [p]
  | q :: rest =>
      if p.equiv q then q :: rest
      else if p.lt q then p :: q :: rest
      else q :: insertPath p rest

/-- Changes that wait to be handled. Times are in milliseconds. -/
structure Debouncer where
  /-- How long files must be left alone. -/
  delay : Nat
  /-- The changed paths, in order and each once. -/
  pending : List Path := []
  /-- When the last change came. -/
  lastEvent : Option Nat := none
deriving DecidableEq, Inhabited

namespace Debouncer

/-- Take up a change. -/
def add (debouncer : Debouncer) (now : Nat) (event : FileEvent) : Debouncer :=
  { debouncer with
    pending := (event.paths.filter fun p => !p.isTemporary).foldl
      (fun pending p => insertPath p pending) debouncer.pending
    lastEvent := some now }

/-- Whether the changes can be handled. -/
def isReady (debouncer : Debouncer) (now : Nat) : Bool :=
  !debouncer.pending.isEmpty && debouncer.lastEvent.any fun last => last + debouncer.delay ≤ now

/-- The changes, and the debouncer without them. -/
def take (debouncer : Debouncer) : List Path × Debouncer :=
  (debouncer.pending, { debouncer with pending := [], lastEvent := none })

/-- How long to wait if nothing has changed. -/
def idleTimeout : Nat := 60000

/-- How long to wait for the next event. -/
def timeout (debouncer : Debouncer) : Nat :=
  if debouncer.pending.isEmpty then idleTimeout else debouncer.delay

/-! ## Section 3: Waiting for changes -/

/-- What comes while waiting. -/
inductive Message where
  | event (event : FileEvent)
  /-- The watching itself failed. -/
  | failure (message : String)
  | timeout
deriving DecidableEq, Inhabited

/-- Take up what came at a time: the batch that is to be handled now, if there is one. -/
def receive (debouncer : Debouncer) (now : Nat) (message : Message) :
    Option (List Path) × Debouncer :=
  match message with
  | .event event =>
      (none, if event.isRelevant then debouncer.add now event else debouncer)
  | .failure _ => (none, debouncer)
  | .timeout =>
      if debouncer.isReady now then
        let (batch, debouncer) := debouncer.take
        (some batch, debouncer)
      else (none, debouncer)

end Debouncer

end Folio
