import Mathlib.Data.List.Induction
import Folio.Proofs.Path.Order
import Folio.Proofs.Watch.UpToDate
import Folio.Watch.Loop

/-!
# No change is lost

What a watch has collected is settled by what has come since it last handled a batch: the paths that
count, each once and in order, and the time of the last change. So whatever comes, and whenever, a
changed path is in the next batch, or waits as long as there is none, and a batch holds nothing else.

Main definitions:
- `Debouncer.Message.changes`: the paths of a message that count
- `Debouncer.collected`: what has been collected from what came
- `Watch.SinceBatch`: what has come since the last batch
- `Watch.IsBatch`: what a batch consists of, and when it is handled
- `Watch.nextBatch`: the next batch of a run, or what waits for it

Main statements:
- `Debouncer.receive_collected`: one step
- `Watch.debouncer_run`: what a run has collected
- `Watch.exists_mem_nextBatch`: what waits gets into the next batch
- `Watch.isBatch_of_turn`, `Watch.turn_of_rested`: what is handled, and when
- `Watch.turn_keeps_changes`: no change is lost and none is made up
-/

namespace Folio

variable {p q : Path} {paths : List Path}

/-! ## Section 1: Paths in order -/

theorem mem_insertPath (mem : q ∈ insertPath p paths) : q = p ∨ q ∈ paths := by
  fun_induction insertPath p paths with
  | case1 => exact .inl (by simpa using mem)
  | case2 r rest same => exact .inr mem
  | case3 r rest different less => simpa using mem
  | case4 r rest different notLess ih =>
    rcases List.mem_cons.mp mem with rfl | mem
    · exact .inr List.mem_cons_self
    · exact (ih mem).imp_right (List.mem_cons_of_mem _)

theorem subset_insertPath (p : Path) (paths : List Path) : paths ⊆ insertPath p paths := by
  fun_induction insertPath p paths with
  | case1 => exact List.nil_subset _
  | case2 r rest same => exact List.Subset.refl _
  | case3 r rest different less => exact List.subset_cons_self _ _
  | case4 r rest different notLess ih => exact List.cons_subset_cons r ih

/-- A path that has been put in its place is there, if need be by another spelling. -/
theorem exists_equiv_insertPath (p : Path) (paths : List Path) :
    ∃ q ∈ insertPath p paths, q.equiv p := by
  fun_induction insertPath p paths with
  | case1 => exact ⟨p, List.mem_cons_self, p.equiv_refl⟩
  | case2 r rest same => exact ⟨r, List.mem_cons_self, Path.equiv_symm same⟩
  | case3 r rest different less => exact ⟨p, List.mem_cons_self, p.equiv_refl⟩
  | case4 r rest different notLess ih =>
    obtain ⟨q, mem, same⟩ := ih
    exact ⟨q, List.mem_cons_of_mem _ mem, same⟩

theorem pairwise_insertPath (sorted : paths.Pairwise fun p q => p.lt q) :
    (insertPath p paths).Pairwise fun p q => p.lt q := by
  fun_induction insertPath p paths with
  | case1 => exact List.pairwise_singleton _ _
  | case2 r rest same => exact sorted
  | case3 r rest different less =>
    refine List.pairwise_cons.mpr ⟨fun q mem => ?_, sorted⟩
    rcases List.mem_cons.mp mem with rfl | mem
    · exact less
    · exact Path.lt_trans less (List.rel_of_pairwise_cons sorted mem)
  | case4 r rest different notLess ih =>
    obtain ⟨above, sorted⟩ := List.pairwise_cons.mp sorted
    refine List.pairwise_cons.mpr ⟨fun q mem => ?_, ih sorted⟩
    rcases mem_insertPath mem with rfl | mem
    · -- neither the same nor less leaves greater
      have := q.lt_or_equiv_or_gt r
      tauto
    · exact above q mem

/-- Put paths in their places. -/
def insertPaths (paths pending : List Path) : List Path :=
  paths.foldl (fun pending p => insertPath p pending) pending

section InsertPaths

variable {pending : List Path}

theorem insertPaths_append (first second pending : List Path) :
    insertPaths (first ++ second) pending = insertPaths second (insertPaths first pending) :=
  List.foldl_append

theorem mem_insertPaths (mem : q ∈ insertPaths paths pending) : q ∈ paths ∨ q ∈ pending := by
  induction paths generalizing pending with
  | nil => exact .inr mem
  | cons p paths ih =>
    rcases ih mem with mem | mem
    · exact .inl (List.mem_cons_of_mem _ mem)
    · rcases mem_insertPath mem with rfl | mem
      · exact .inl List.mem_cons_self
      · exact .inr mem

theorem subset_insertPaths (paths pending : List Path) : pending ⊆ insertPaths paths pending := by
  induction paths generalizing pending with
  | nil => exact List.Subset.refl _
  | cons p paths ih => exact List.Subset.trans (subset_insertPath p pending) (ih _)

theorem exists_equiv_insertPaths (mem : p ∈ paths) : ∃ q ∈ insertPaths paths pending, q.equiv p := by
  obtain ⟨before, after, rfl⟩ := List.append_of_mem mem
  obtain ⟨q, there, same⟩ := exists_equiv_insertPath p (insertPaths before pending)
  refine ⟨q, ?_, same⟩
  rw [insertPaths_append]
  exact subset_insertPaths after _ there

theorem pairwise_insertPaths (sorted : pending.Pairwise fun p q => p.lt q) :
    (insertPaths paths pending).Pairwise fun p q => p.lt q := by
  induction paths generalizing pending with
  | nil => exact sorted
  | cons p paths ih => exact ih (pairwise_insertPath sorted)

end InsertPaths

/-! ## Section 2: What has been collected -/

namespace Debouncer

/-- Whether a message is a change. -/
def Message.isChange : Message → Bool
  | .event fileEvent => fileEvent.isRelevant
  | .failure _ | .timeout => false

/-- The paths that a message says have changed, without the files that editors make for themselves. -/
def Message.changes : Message → List Path
  | .event fileEvent =>
      if fileEvent.isRelevant then fileEvent.paths.filter fun p => !p.isTemporary else []
  | .failure _ | .timeout => []

/-- The paths that a message is about are those of a change, as far as they count. -/
theorem Message.mem_changes {message : Message} :
    p ∈ message.changes ↔
      ∃ event, message = .event event ∧ event.isRelevant ∧ p ∈ event.paths ∧ ¬ p.isTemporary := by
  cases message with
  | event event => by_cases relevant : event.isRelevant <;> simp [changes, relevant]
  | failure why => simp [changes]
  | timeout => simp [changes]

/-- All changed paths that have come. -/
def allChanges (arrivals : List Arrival) : List Path := arrivals.flatMap fun a => a.message.changes

/-- The last change that has come. -/
def lastChange? (arrivals : List Arrival) : Option Arrival :=
  (arrivals.filter fun a => a.message.isChange).getLast?

/-- What is collected from what comes when nothing waits. -/
def collected (delay : Nat) (arrivals : List Arrival) : Debouncer where
  delay := delay
  pending := insertPaths (allChanges arrivals) []
  lastEvent := (lastChange? arrivals).map Arrival.time

/-! ### One step -/

section Receive

variable {debouncer : Debouncer} {now : Nat} {message : Message}

@[simp]
theorem pending_add (debouncer : Debouncer) (now : Nat) (event : FileEvent) :
    (debouncer.add now event).pending
      = insertPaths (event.paths.filter fun p => !p.isTemporary) debouncer.pending := rfl

/-- What waits is handed over, or goes on waiting. -/
theorem receive_keeps (now : Nat) (message : Message) (waits : p ∈ debouncer.pending) :
    match debouncer.receive now message with
    | (some batch, _) => p ∈ batch
    | (none, after) => p ∈ after.pending := by
  cases message with
  | event event =>
    by_cases relevant : event.isRelevant
    · simpa [receive, relevant] using subset_insertPaths _ _ waits
    · simpa [receive, relevant] using waits
  | failure why => exact waits
  | timeout =>
    by_cases ready : debouncer.isReady now
    · simpa [receive, ready, take] using waits
    · simpa [receive, ready] using waits

/-- What a message says has changed waits from then on. -/
theorem receive_changes (debouncer : Debouncer) (now : Nat) (changed : p ∈ message.changes) :
    (debouncer.receive now message).1 = none
      ∧ ∃ q ∈ (debouncer.receive now message).2.pending, q.equiv p := by
  obtain ⟨event, rfl, relevant, mem, lasting⟩ := Message.mem_changes.mp changed
  refine ⟨rfl, ?_⟩
  simp only [receive, relevant, if_true]
  exact exists_equiv_insertPaths (by simpa using ⟨mem, by simpa using lasting⟩)

/-- Nothing else begins to wait. -/
theorem receive_pending (mem : p ∈ (debouncer.receive now message).2.pending) :
    p ∈ debouncer.pending ∨ p ∈ message.changes := by
  cases message with
  | event event =>
    by_cases relevant : event.isRelevant
    · simp only [receive, relevant, if_true] at mem
      refine (mem_insertPaths mem).symm.imp_right fun changed => ?_
      simpa [Message.changes, relevant] using changed
    · exact .inl (by simpa [receive, relevant] using mem)
  | failure why => exact .inl mem
  | timeout =>
    by_cases ready : debouncer.isReady now
    · simp [receive, ready, take] at mem
    · exact .inl (by simpa [receive, ready] using mem)

end Receive

/-! ### Many steps -/

variable {delay : Nat} {arrivals : List Arrival} {arrival : Arrival}

theorem lastChange?_append (arrivals arrivals' : List Arrival) :
    lastChange? (arrivals ++ arrivals') = (lastChange? arrivals').or (lastChange? arrivals) := by
  rw [lastChange?, List.filter_append, List.getLast?_append]
  rfl

theorem collected_append_change {event : FileEvent} (isEvent : arrival.message = .event event)
    (relevant : event.isRelevant) :
    collected delay (arrivals ++ [arrival]) = (collected delay arrivals).add arrival.time event := by
  have changes : allChanges [arrival] = event.paths.filter fun p => !p.isTemporary := by
    simp [allChanges, isEvent, Message.changes, relevant]
  have last : lastChange? [arrival] = some arrival := by
    simp [lastChange?, isEvent, Message.isChange, relevant]
  simp only [collected, add, lastChange?_append, last]
  rw [allChanges, List.flatMap_append, insertPaths_append, ← allChanges, ← allChanges, changes]
  rfl

theorem collected_append_other (noChange : arrival.message.isChange = false) :
    collected delay (arrivals ++ [arrival]) = collected delay arrivals := by
  have changes : allChanges [arrival] = [] := by
    cases message : arrival.message with
    | event event =>
      rw [message, Message.isChange] at noChange
      simp [allChanges, message, Message.changes, noChange]
    | failure why => simp [allChanges, message, Message.changes]
    | timeout => simp [allChanges, message, Message.changes]
  have last : lastChange? [arrival] = none := by simp [lastChange?, noChange]
  simp only [collected, lastChange?_append, last]
  rw [allChanges, List.flatMap_append, ← allChanges, ← allChanges, changes, List.append_nil]
  rfl

/-- What comes is collected with the rest, unless it is the end of a wait that was long enough. Then
all that has been collected is handed over. -/
theorem receive_collected (delay : Nat) (arrivals : List Arrival) (arrival : Arrival) :
    (collected delay arrivals).receive arrival.time arrival.message
        = (none, collected delay (arrivals ++ [arrival]))
      ∨ arrival.message = .timeout
        ∧ (collected delay arrivals).isReady arrival.time
        ∧ (collected delay arrivals).receive arrival.time arrival.message
          = (some (collected delay arrivals).pending, collected delay []) := by
  cases message : arrival.message with
  | event event =>
    refine .inl (Prod.ext rfl ?_)
    by_cases relevant : event.isRelevant
    · simp [receive, relevant, collected_append_change message relevant]
    · have noChange : arrival.message.isChange = false := by
        simp [message, Message.isChange, relevant]
      simp [receive, relevant, collected_append_other noChange]
  | failure why =>
    refine .inl (Prod.ext rfl ?_)
    exact (collected_append_other (by rw [message]; rfl)).symm
  | timeout =>
    by_cases ready : (collected delay arrivals).isReady arrival.time
    · exact .inr ⟨rfl, ready, by simp only [receive, ready, if_true, take]; rfl⟩
    · refine .inl ?_
      simp only [receive, ready]
      rw [collected_append_other (by rw [message]; rfl)]
      rfl

/-- Spellings of one path count once, and neither looking at a file nor a copy that an editor makes
is a change. -/
example : (collected 300
    [⟨0, .event ⟨.modify, [.ofString "b.md", .ofString "a.md", .ofString "a.md~"]⟩, {}⟩,
      ⟨10, .event ⟨.access, [.ofString "c.md"]⟩, {}⟩,
      ⟨20, .event ⟨.remove, [.ofString "a.md/"]⟩, {}⟩]).pending
    = [.ofString "a.md", .ofString "b.md"] := by decide

/-! ### What is handed over -/

theorem mem_pending_collected (mem : p ∈ (collected delay arrivals).pending) :
    p ∈ allChanges arrivals := by
  simpa using mem_insertPaths mem

/-- If something waits, there has been a change. -/
theorem exists_lastChange? (waits : (collected delay arrivals).pending ≠ []) :
    ∃ last, lastChange? arrivals = some last := by
  obtain ⟨p, mem⟩ := List.exists_mem_of_ne_nil _ waits
  obtain ⟨a, came, changed⟩ := List.mem_flatMap.mp (mem_pending_collected mem)
  obtain ⟨event, isEvent, relevant, -, -⟩ := Message.mem_changes.mp changed
  have isChange : a ∈ arrivals.filter fun a => a.message.isChange :=
    List.mem_filter.mpr ⟨came, by rw [isEvent]; exact relevant⟩
  exact ⟨_, List.getLast?_eq_some_getLast (List.ne_nil_of_mem isChange)⟩

/-- What has been collected can be handled if there is something, and no change for long enough. -/
theorem isReady_collected_iff {now : Nat} :
    (collected delay arrivals).isReady now ↔ (collected delay arrivals).pending ≠ [] ∧
      ∃ last, lastChange? arrivals = some last ∧ last.time + delay ≤ now := by
  cases last : lastChange? arrivals <;> simp [isReady, collected, last]

theorem pairwise_pending_collected (delay : Nat) (arrivals : List Arrival) :
    (collected delay arrivals).pending.Pairwise fun p q => p.lt q :=
  pairwise_insertPaths List.Pairwise.nil

end Debouncer

/-! ## Section 3: Runs -/

namespace Watch

open Debouncer

variable {R : Type} {language : ScriptLanguage R} {watch : Watch R} {state : Session.State R}
  {arrivals before since : List Arrival} {arrival : Arrival} {batch : List Path}

theorem turn_fst (language : ScriptLanguage R) (watch : Watch R) (arrival : Arrival) :
    (watch.turn language arrival).1 = (watch.debouncer.receive arrival.time arrival.message).1 := by
  unfold turn
  rcases watch.debouncer.receive arrival.time arrival.message with ⟨_ | batch, after⟩ <;> rfl

theorem turn_debouncer (language : ScriptLanguage R) (watch : Watch R) (arrival : Arrival) :
    (watch.turn language arrival).2.debouncer
      = (watch.debouncer.receive arrival.time arrival.message).2 := by
  unfold turn
  rcases watch.debouncer.receive arrival.time arrival.message with ⟨_ | batch, after⟩ <;> rfl

theorem run_cons (arrival : Arrival) (rest : List Arrival) :
    watch.run language (arrival :: rest)
      = ((watch.turn language arrival).1.toList
            ++ ((watch.turn language arrival).2.run language rest).1,
          ((watch.turn language arrival).2.run language rest).2) := rfl

theorem run_append (arrivals arrivals' : List Arrival) :
    watch.run language (arrivals ++ arrivals')
      = ((watch.run language arrivals).1
            ++ ((watch.run language arrivals).2.run language arrivals').1,
          ((watch.run language arrivals).2.run language arrivals').2) := by
  induction arrivals generalizing watch with
  | nil => rfl
  | cons arrival rest ih =>
    rw [List.cons_append, run_cons, run_cons, ih, List.append_assoc]

theorem run_singleton (arrival : Arrival) :
    watch.run language [arrival]
      = ((watch.turn language arrival).1.toList, (watch.turn language arrival).2) := by
  rw [run_cons]
  simp [run]

/-- The next batch of a run, or what waits at its end if there is none. -/
def nextBatch (result : List (List Path) × Watch R) : List Path :=
  result.1.headD result.2.debouncer.pending

/-- What waits is in the next batch, or goes on waiting. -/
theorem exists_mem_nextBatch (language : ScriptLanguage R) (later : List Arrival)
    (waits : p ∈ watch.debouncer.pending) : p ∈ nextBatch (watch.run language later) := by
  -- on what is still to come, up to the first batch
  induction later generalizing watch with
  | nil => exact waits
  | cons arrival later ih =>
    have kept := receive_keeps arrival.time arrival.message waits
    rw [run_cons, turn_fst]
    have after := turn_debouncer language watch arrival
    rcases received : watch.debouncer.receive arrival.time arrival.message with ⟨_ | batch, rest⟩
    · rw [received] at kept after
      exact ih (after ▸ kept)
    · rw [received] at kept
      exact kept

/-- What has come since the last batch of a run, or since its beginning if there was none. -/
def SinceBatch (language : ScriptLanguage R) (watch : Watch R)
    (arrivals since : List Arrival) : Prop :=
  ∃ earlier, arrivals = earlier ++ since
    ∧ (earlier = [] ∨ ∃ init last, earlier = init ++ [last]
      ∧ ((watch.run language init).2.turn language last).1.isSome)
    ∧ ((watch.run language earlier).2.run language since).1 = []

theorem SinceBatch.append (sinceBatch : SinceBatch language watch arrivals since)
    (none : ((watch.run language arrivals).2.turn language arrival).1 = none) :
    SinceBatch language watch (arrivals ++ [arrival]) (since ++ [arrival]) := by
  obtain ⟨earlier, rfl, isEnd, noBatch⟩ := sinceBatch
  refine ⟨earlier, List.append_assoc .., isEnd, ?_⟩
  rw [run_append] at none
  rw [run_append, noBatch, run_singleton, none]
  rfl

theorem sinceBatch_nil (some : ((watch.run language arrivals).2.turn language arrival).1.isSome) :
    SinceBatch language watch (arrivals ++ [arrival]) [] :=
  ⟨arrivals ++ [arrival], (List.append_nil _).symm, .inr ⟨arrivals, arrival, rfl, some⟩, rfl⟩

/-- The last change since a batch is the last one of all. -/
theorem SinceBatch.lastChange?_eq (sinceBatch : SinceBatch language watch arrivals since)
    {last : Arrival} (isLast : lastChange? since = some last) : lastChange? arrivals = some last := by
  obtain ⟨earlier, rfl, -⟩ := sinceBatch
  rw [lastChange?_append, isLast, Option.some_or]

/-- What a run has collected is what has come since its last batch. -/
theorem debouncer_run (language : ScriptLanguage R) (state : Session.State R)
    (arrivals : List Arrival) :
    ∃ since, SinceBatch language (start state) arrivals since
      ∧ ((start state).run language arrivals).2.debouncer
        = collected state.session.config.watch.debounce since := by
  -- on the end of the run: what came last is collected, or ends the wait of all that came before
  induction arrivals using List.reverseRecOn with
  | nil => exact ⟨[], ⟨[], rfl, .inl rfl, rfl⟩, rfl⟩
  | append_singleton arrivals arrival ih =>
    obtain ⟨since, sinceBatch, debouncer⟩ := ih
    have handed := turn_fst language ((start state).run language arrivals).2 arrival
    have after := turn_debouncer language ((start state).run language arrivals).2 arrival
    rw [debouncer] at handed after
    rw [run_append, run_singleton]
    rcases receive_collected state.session.config.watch.debounce since arrival with
      kept | ⟨-, -, taken⟩
    · rw [kept] at handed after
      exact ⟨since ++ [arrival], sinceBatch.append handed, after⟩
    · rw [taken] at handed after
      exact ⟨[], sinceBatch_nil (by rw [handed]; rfl), after⟩

/-! ## Section 4: Batches -/

/-- A batch that is handled when something comes: all the paths that have changed since the last
batch, each once and in order, after a wait that began with the last change. -/
structure IsBatch (delay : Nat) (before since : List Arrival) (arrival : Arrival)
    (batch : List Path) : Prop where
  nonempty : batch ≠ []
  ordered : batch.Pairwise fun p q => p.lt q
  distinct : batch.Pairwise fun p q => ¬ p.equiv q
  received : ∀ p ∈ batch, p ∈ allChanges since
  complete : ∀ p ∈ allChanges since, ∃ q ∈ batch, q.equiv p
  timeout : arrival.message = .timeout
  rested : ∃ last, lastChange? before = some last ∧ last.time + delay ≤ arrival.time

theorem isBatch_of_turn (handed : (((start state).run language before).2.turn language arrival).1
      = some batch) :
    ∃ since, SinceBatch language (start state) before since
      ∧ IsBatch state.session.config.watch.debounce before since arrival batch := by
  obtain ⟨since, sinceBatch, debouncer⟩ := debouncer_run language state before
  refine ⟨since, sinceBatch, ?_⟩
  rw [turn_fst, debouncer] at handed
  rcases receive_collected state.session.config.watch.debounce since arrival with
    kept | ⟨timeout, ready, taken⟩
  · simp [kept] at handed
  · rw [taken] at handed
    obtain rfl := Option.some.inj handed
    have ordered := pairwise_pending_collected state.session.config.watch.debounce since
    obtain ⟨nonempty, last, isLast, rested⟩ := isReady_collected_iff.mp ready
    refine ⟨nonempty, ordered, ordered.imp Path.not_equiv_of_lt, fun _ => mem_pending_collected,
      fun p => exists_equiv_insertPaths, timeout, last, ?_, rested⟩
    exact sinceBatch.lastChange?_eq isLast

/-- A wait that ends when files have been left alone for long enough hands over all that waits. -/
theorem turn_of_rested (timeout : arrival.message = .timeout)
    (waits : ((start state).run language before).2.debouncer.pending ≠ []) {last : Arrival}
    (isLast : lastChange? before = some last)
    (rested : last.time + state.session.config.watch.debounce ≤ arrival.time) :
    (((start state).run language before).2.turn language arrival).1
      = some ((start state).run language before).2.debouncer.pending := by
  obtain ⟨since, sinceBatch, debouncer⟩ := debouncer_run language state before
  rw [debouncer] at waits
  -- what waits has come since the last batch, and the last change with it
  obtain ⟨last', isLast'⟩ := exists_lastChange? waits
  obtain rfl : last' = last :=
    Option.some.inj ((sinceBatch.lastChange?_eq isLast').symm.trans isLast)
  have ready := isReady_collected_iff.mpr ⟨waits, last', isLast', rested⟩
  rw [turn_fst, debouncer, timeout]
  simp only [receive, ready, if_true, take]

/-- Wherever in a run something comes: every change that it brings is in the next batch, or waits as
long as there is none; a batch that is handled then is all that has changed since the last one, and
was left alone for long enough; it is handled as soon as a wait ends after that; and nothing else
begins to wait. -/
theorem turn_keeps_changes (language : ScriptLanguage R) (state : Session.State R)
    (before : List Arrival) (arrival : Arrival) (later : List Arrival) :
    let watch := ((start state).run language before).2
    let turn := watch.turn language arrival
    (∀ p ∈ arrival.message.changes,
        ∃ q ∈ nextBatch (turn.2.run language later), q.equiv p)
      ∧ (∀ batch, turn.1 = some batch →
        ∃ since, SinceBatch language (start state) before since
          ∧ IsBatch state.session.config.watch.debounce before since arrival batch)
      ∧ (arrival.message = .timeout → watch.debouncer.pending ≠ [] →
        ∀ last, lastChange? before = some last →
          last.time + state.session.config.watch.debounce ≤ arrival.time →
          turn.1 = some watch.debouncer.pending)
      ∧ ∀ p ∈ turn.2.debouncer.pending, p ∈ watch.debouncer.pending ∨ p ∈ arrival.message.changes := by
  intro watch turn
  refine ⟨fun p changed => ?_, fun batch handed => isBatch_of_turn handed,
    fun timeout waits last => turn_of_rested timeout waits, fun p mem => ?_⟩
  · -- what is collected now is what a later batch has to hold
    obtain ⟨-, q, waits, same⟩ := receive_changes watch.debouncer arrival.time changed
    rw [← turn_debouncer language] at waits
    exact ⟨q, exists_mem_nextBatch language later waits, same⟩
  · rw [turn_debouncer] at mem
    exact receive_pending mem

/-- Two changes, of which the second is of no file that counts but puts the batch off. -/
theorem turn_keeps_changes_of_burst :
    let state : Session.State Unit := { fs := Session.twoCandidates, session := Session.defaultSession }
    let before : List Arrival :=
      [⟨0, .event ⟨.modify, [.ofString "b.md", .ofString "a.md"]⟩, Session.twoCandidates⟩,
        ⟨200, .event ⟨.create, [.ofString "a.md~"]⟩, Session.twoCandidates⟩,
        ⟨350, .timeout, Session.twoCandidates⟩]
    let arrival : Arrival := ⟨500, .timeout, Session.twoCandidates⟩
    let watch := ((start state).run .none before).2
    let batch := [Path.ofString "a.md", Path.ofString "b.md"]
    (watch.turn .none arrival).1 = some batch
      ∧ ∃ since, SinceBatch .none (start state) before since
        ∧ IsBatch 300 before since arrival batch := by
  intro state before arrival watch batch
  have waits : watch.debouncer.pending = batch := by decide +kernel
  obtain ⟨-, isBatch, handed, -⟩ := turn_keeps_changes .none state before arrival []
  have handed : (watch.turn .none arrival).1 = some watch.debouncer.pending :=
    handed rfl (by rw [waits]; decide) ⟨200, .event ⟨.create, [.ofString "a.md~"]⟩, Session.twoCandidates⟩
      rfl (by decide)
  rw [waits] at handed
  exact ⟨handed, isBatch batch handed⟩

end Watch

end Folio
