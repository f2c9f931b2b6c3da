import BackupMonitor.Backup.Tracked
import BackupMonitor.Engine.Trace
import BackupMonitor.Registry.Token
/-!
# Trackers

A tracker follows the backups of one schedule. It lists the backups for the sake of the cursor,
watches from there, and takes one event after the other; when the watch ends it starts over with
nothing tracked.

* `Tracker.react` is what one event means, given what is tracked: a pure function.
* `Tracker.step` is one step of the tracker. It answers `none` if the tracker has to wait, and
  also once it has finished.

A tracker whose token is cancelled finishes at its next step, whatever has come in, unless it is
handing a report to the sinks: it hands that report to all of them first.
-/

namespace BackupMonitor

/-- What stays the same over a run. -/
structure Setup where
  /-- The namespace of all resources. -/
  space : String
  /-- The sinks. -/
  sinks : List Sink
  /-- The version of a list, given its kind and how many lists of that kind succeeded. -/
  version : ResourceKind → Nat → Option String := fun _ n => some ("rv-" ++ toString n)

/-- What a task sees of its surroundings when it takes a step. -/
structure View where
  /-- What stays the same over the run. -/
  setup : Setup
  /-- The API server. -/
  server : Server
  /-- Whether calls to sinks wait. -/
  sinksHeld : Bool
  /-- Whether the token of the task is cancelled. -/
  cancelled : Bool
  /-- What all tasks did so far. -/
  trace : Trace

/-- What was handed to the sinks so far. -/
def View.earlier (view : View) : List Delivery :=
  view.trace.deliveries

/-- The answer of the server to a call that is not held. -/
def View.answer {α : Type} (view : View) (verb : Verb) (kind : ResourceKind) (success : α) :
    Option (Except TaskError α) :=
  let gate := (view.server.shelf kind).gate verb
  if gate.held then none
  else
    match gate.fault with
    | some message => some (.error (.call verb kind.plural message))
    | none => some (.ok success)

/-- The listing of a kind that the server has ready. -/
def View.listing (view : View) (kind : ResourceKind) : Listing :=
  .of (view.server.shelf kind).items
    (view.setup.version kind ((view.server.shelf kind).listed + 1))

/-- What is left to do of a tracker. -/
inductive TrackerStage where
  /-- It has not run yet. -/
  | spawned
  /-- It is about to list. -/
  | ready
  /-- It waits for the answer to its list. -/
  | listing
  /-- It is about to watch. -/
  | listed (cursor : String)
  /-- It waits for its watch to be opened. -/
  | opening (cursor : String)
  /-- It waits for an event. -/
  | following (feed : Feed) (tracked : Tracked)
  /-- It is handing a report to the sinks, of which the one at `place` is next. -/
  | delivering (feed : Feed) (tracked : Tracked) (report : Report) (place : Nat)
  /-- It has finished, well or with an error. -/
  | finished (error : Option TaskError)

/-- A tracker of one schedule. -/
structure Tracker where
  /-- The name of the schedule. -/
  schedule : String
  /-- The token that cancels it. -/
  token : Token
  /-- What is left to do. -/
  stage : TrackerStage := .spawned

/-- What an event means to a tracker. -/
structure Reaction where
  /-- What is tracked afterwards. -/
  tracked : Tracked
  /-- What is logged. -/
  log : List Log.Line := []
  /-- What is measured. -/
  measurements : List Measurement := []
  /-- What is reported. -/
  report : Option Report := none

namespace Outcome

/-- The report on an outcome. -/
def report (outcome : Outcome) : Report :=
  match outcome with
  | success duration _ =>
    .success outcome.message (.singleton durationMetric duration.seconds)
  | failure _ => .failure outcome.message

/-- What is logged when an outcome is reported. -/
def reportLog (outcome : Outcome) (schedule backup : String) : Log.Line :=
  match outcome with
  | success duration _ =>
    ⟨.tracker, .info, "backup completed", [("schedule", schedule), ("backup", backup),
      ("duration_seconds", .float duration.seconds)]⟩
  | failure _ =>
    ⟨.tracker, .warn, "backup failed", [("schedule", schedule), ("backup", backup),
      ("error", outcome.message)]⟩

/-- What is measured when an outcome is reported; a negative duration is no sample. -/
def measurements : Outcome → List Measurement
  | success duration _ =>
    .report .success :: (if 0 ≤ duration.nanos then [.duration duration.seconds] else [])
  | failure _ => [.report .failure]

end Outcome

namespace Tracker

/-- What the state of an owned backup that appeared or changed means. -/
def reactToState (schedule name : String) (tracked : Tracked) (backup : Object) : Reaction :=
  let observation := tracked.observe backup
  match observation.result with
  | .error e =>
    { tracked := observation.tracked
      log := observation.log ++ [⟨.tracker, .warn, "skipping malformed backup event",
        [("schedule", schedule), ("backup", name), ("error", e.message)]⟩]
      measurements := [.malformed] }
  | .ok none => { tracked := observation.tracked, log := observation.log }
  | .ok (some outcome) =>
    { tracked := observation.tracked
      log := observation.log ++ [outcome.reportLog schedule name]
      measurements := outcome.measurements
      report := some outcome.report }

/-- What an event means to the tracker of a schedule. -/
def react (schedule : String) (tracked : Tracked) (event : Event) : Reaction :=
  match event.object.name with
  | none =>
    { tracked
      log := [⟨.tracker, .warn, "ignoring backup event without a name",
        [("schedule", schedule), ("event", event.change.label)]⟩] }
  | some name =>
    if event.object.isOwnedBySchedule schedule then
      match event.change with
      | .deleted =>
        { tracked := tracked.erase name
          log := [⟨.tracker, .info, "backup deleted", [("schedule", schedule), ("backup", name)]⟩] }
      | _ => reactToState schedule name tracked event.object
    else
      { tracked := tracked.erase name
        log :=
          if tracked.contains name then
            [⟨.tracker, .info, "backup no longer owned by this schedule, untracking",
              [("schedule", schedule), ("backup", name)]⟩]
          else [] }

/-- What a tracker does when it finishes. -/
def finish (error : Option TaskError) : TrackerStage × List Occurrence :=
  (.finished error, [.measured .trackerStopped, .finished error])

/-- Takes an event. -/
def take (setup : Setup) (schedule : String) (feed : Feed) (tracked : Tracked) (event : Event) :
    TrackerStage × List Occurrence :=
  let reaction := react schedule tracked event
  let stage :=
    match reaction.report with
    | some report =>
      if setup.sinks.isEmpty then .following feed reaction.tracked
      else .delivering feed reaction.tracked report 0
    | none => .following feed reaction.tracked
  (stage, .took event :: reaction.log.map .logged ++ reaction.measurements.map .measured)

/-- Hands a report to the sink at a place. -/
def deliver (view : View) (feed : Feed) (tracked : Tracked) (report : Report) (place : Nat) :
    TrackerStage × List Occurrence :=
  match view.setup.sinks[place]? with
  | none => (.following feed tracked, [])
  | some sink =>
    let delivery := sink.deliver place view.earlier report
    let stage :=
      if place + 1 < view.setup.sinks.length then .delivering feed tracked report (place + 1)
      else .following feed tracked
    (stage, (sink.announce report).map .logged ++ .delivered delivery ::
      ((if delivery.error.isNone then sink.confirm report else []) ++ delivery.log).map .logged ++
      delivery.measurements.map .measured)

/-- What a tracker that is not cancelled does next; `none` if it has to wait. -/
def proceed (view : View) (schedule : String) :
    TrackerStage → Option (TrackerStage × List Occurrence)
  | .ready => some (.listing, [.called ⟨view.setup.space, .list .backup⟩])
  | .listing =>
    match view.answer .list .backup (view.listing .backup) with
    | none => none
    | some (.error e) => some ((finish e).1, .refused e :: (finish e).2)
    | some (.ok listing) => some (.listed listing.cursor, [.listed .backup listing])
  | .listed cursor =>
    some (.opening cursor, [.called ⟨view.setup.space, .watch .backup cursor⟩])
  | .opening _ =>
    match view.answer .watch .backup () with
    | none => none
    | some (.error e) => some ((finish e).1, .refused e :: (finish e).2)
    | some (.ok ()) => some (.following {} ∅, [.opened .backup])
  | .following feed tracked =>
    match feed.queue with
    | event :: queue => some (take view.setup schedule { feed with queue } tracked event)
    | [] =>
      if feed.closed then
        some (.ready, [.sawEnd .backup, .measured (.restart ResourceKind.backup.plural)])
      else none
  | _ => none

/-- One step of a tracker: its next stage and what it does; `none` if it waits or has finished. -/
def step (view : View) (t : Tracker) : Option (TrackerStage × List Occurrence) :=
  match t.stage with
  | .spawned => some (.ready, [.measured .trackerStarted])
  | .delivering feed tracked report place =>
    if view.sinksHeld then none else some (deliver view feed tracked report place)
  | .finished _ => none
  | stage => if view.cancelled then some (finish none) else proceed view t.schedule stage

/-- Whether the tracker has finished. -/
def isFinished (t : Tracker) : Bool :=
  match t.stage with
  | .finished _ => true
  | _ => false

/-- The open watch of the tracker. -/
def feed? (t : Tracker) : Option Feed :=
  match t.stage with
  | .following feed _ => some feed
  | .delivering feed _ _ _ => some feed
  | _ => none

/-- Whether the tracker has a watch that was not ended. -/
def isWatching (t : Tracker) : Bool :=
  match t.feed? with
  | some feed => !feed.closed
  | none => false

/-- Changes the open watch of the tracker, if it has one. -/
def updateFeed (t : Tracker) (f : Feed → Feed) : Tracker :=
  match t.stage with
  | .following feed tracked => { t with stage := .following (f feed) tracked }
  | .delivering feed tracked report place =>
    { t with stage := .delivering (f feed) tracked report place }
  | _ => t

/-! ## How much is left to do

Each step of a tracker lowers `budget`, so a tracker comes to rest. -/

/-- An upper bound of the steps that an open watch can lead to. -/
def feedBudget (sinkCount : Nat) (feed : Feed) : Nat :=
  1 + feed.queue.length * (sinkCount + 2) + (if feed.closed then 5 else 0)

/-- An upper bound of the steps that a tracker can take before new input arrives. -/
def budget (sinkCount : Nat) (t : Tracker) : Nat :=
  match t.stage with
  | .spawned => 6
  | .ready => 5
  | .listing => 4
  | .listed _ => 3
  | .opening _ => 2
  | .following feed _ => feedBudget sinkCount feed
  | .delivering feed _ _ place => (sinkCount - place) + feedBudget sinkCount feed + 1
  | .finished _ => 0

end Tracker

end BackupMonitor
