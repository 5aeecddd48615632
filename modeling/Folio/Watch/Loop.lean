import Folio.Watch.Debouncer
import Folio.Watch.Session

/-!
# The loop of a watch

A watch goes on with every message that comes. Changes are collected, and when they have waited long
enough, the session handles them as one batch, on the files as they are by then.

Main definitions:
- `Arrival`: what comes to a watch
- `Watch`, `Watch.start`
- `Watch.turn`: one turn of the loop
- `Watch.run`: many turns
-/

namespace Folio

/-- A message, the time when it comes, in milliseconds, and the files as they are then. -/
structure Arrival where
  time : Nat
  message : Debouncer.Message
  files : FileSystem

/-- The changes that wait, and the session that they wait for. -/
structure Watch (R : Type) where
  debouncer : Debouncer
  state : Session.State R

namespace Watch

variable {R : Type}

/-- The watch that a session begins. How long changes wait is settled then. -/
def start (state : Session.State R) : Watch R where
  debouncer := { delay := state.session.config.watch.debounce }
  state := state

/-- What is watched when something comes. A failure to watch is told. -/
def arrive (state : Session.State R) (arrival : Arrival) : Session.State R :=
  let state := { state with fs := arrival.files }
  match arrival.message with
  | .failure why => state.tell (.log "watch" ("error: " ++ why))
  | .event _ | .timeout => state

/-- One turn of the loop: the batch that is handled, if there is one, and the watch after it. -/
def turn (language : ScriptLanguage R) (watch : Watch R) (arrival : Arrival) :
    Option (List Path) × Watch R :=
  let state := arrive watch.state arrival
  match watch.debouncer.receive arrival.time arrival.message with
  | (none, debouncer) => (none, { debouncer, state })
  | (some batch, debouncer) =>
      (some batch, { debouncer, state := Session.handleChanges language batch state })

/-- Many turns of the loop: the batches that are handled, in order, and the watch after them. -/
def run (language : ScriptLanguage R) (watch : Watch R) :
    List Arrival → List (List Path) × Watch R
  | [] => ([], watch)
  | arrival :: rest =>
      let (batch, watch) := watch.turn language arrival
      let (batches, watch) := watch.run language rest
      (batch.toList ++ batches, watch)

end Watch

end Folio
