import BackupMonitor.Engine.Tracker
import BackupMonitor.Registry.Basic
/-!
# The roster of trackers

The roster holds every tracker that was started, and the registry with the tokens of those that
are wanted. `Roster.consider` is what one state of a schedule means for it: a schedule of the
watched cluster has a tracker, any other schedule has none.

A roster can be closed for the time until all trackers have finished. Who waits for that is told
apart from who comes later by the number of times that a closed roster ran empty.
-/

namespace BackupMonitor

/-- The trackers that were started, and which of them are wanted. -/
structure Roster where
  /-- The tokens of all tasks. -/
  tokens : Tokens := .single
  /-- The schedules that are to be tracked, each with the token of its tracker. -/
  registry : Registry := ∅
  /-- Every tracker that was started, in that order. -/
  trackers : List Tracker := []
  /-- Whether somebody waits for all trackers to finish. -/
  closed : Bool := false
  /-- How often there was no tracker left while the roster was closed. -/
  emptied : Nat := 0

namespace Roster

/-- A roster after an operation, with what the operation did. -/
abbrev Change := Roster × List Occurrence

/-- Starts the tracker of a schedule unless one is registered. -/
def start (r : Roster) (schedule : String) : Change :=
  let change := r.registry.startIfAbsent r.tokens schedule Tokens.root
  match change.answer with
  | none => (r, [])
  | some token =>
    ({ r with
       tokens := change.tokens
       registry := change.registry
       trackers := r.trackers ++ [{ schedule, token }] },
      change.log.map .logged ++ [.startedTracker schedule])

/-- The line that says why the tracker of a schedule was stopped, if one was. -/
def stopReason (stopped : Bool) (schedule reason : String) : List Log.Line :=
  if stopped then [⟨.watcher, .info, reason, [("schedule", schedule)]⟩] else []

/-- Stops the tracker of a schedule; if there was one, `reason` is logged. -/
def stop (r : Roster) (schedule reason : String) : Change :=
  let change := r.registry.stop r.tokens schedule
  ({ r with tokens := change.tokens, registry := change.registry },
    (change.log ++ stopReason change.answer schedule reason).map .logged)

/-- Stops every tracker. -/
def stopAll (r : Roster) : Change :=
  let change := r.registry.stopAll r.tokens
  ({ r with tokens := change.tokens, registry := change.registry }, change.log.map .logged)

/-- Whether a schedule is for a cluster. One of which the cluster cannot be read is for none. -/
def targets (cluster : String) (schedule : Object) : Bool :=
  match schedule.scheduleCluster with
  | .ok (some name) => name == cluster
  | _ => false

/-- The warning about a schedule of which the cluster cannot be read. -/
def targetWarnings (schedule : Object) : List Log.Line :=
  match schedule.scheduleCluster with
  | .ok _ => []
  | .error e => [⟨.watcher, .warn, "cannot read cluster of scheduled backup",
      [("schedule", schedule.name.getD ""), ("error", e.message)]⟩]

/-- Starts the tracker of a schedule if it is for the cluster. -/
def startIfTargeting (r : Roster) (cluster name : String) (schedule : Object) : Change :=
  let change := if targets cluster schedule then r.start name else (r, [])
  (change.1, (targetWarnings schedule).map .logged ++ change.2)

/-- Takes in the state of a schedule from a listing; an object without a name is passed over. -/
def enlist (cluster : String) (r : Roster) (schedule : Object) : Change :=
  match schedule.name with
  | none => (r, [])
  | some name => r.startIfTargeting cluster name schedule

/-- Takes in a listing of schedules. -/
def enlistAll (cluster : String) (r : Roster) (schedules : List Object) : Change :=
  schedules.foldl
    (fun (r, did) schedule =>
      let change := enlist cluster r schedule
      (change.1, did ++ change.2))
    (r, [])

/-- Takes in a change of a schedule. -/
def consider (cluster : String) (r : Roster) (event : Event) : Change :=
  match event.object.name with
  | none =>
    (r, [.logged ⟨.watcher, .warn, "ignoring scheduled backup event without a name",
      [("event", event.change.label)]⟩])
  | some name =>
    match event.change with
    | .added => r.startIfTargeting cluster name event.object
    | .modified =>
      if targets cluster event.object then r.startIfTargeting cluster name event.object
      else
        let change := r.stop name "scheduled backup no longer targets this cluster"
        (change.1, (targetWarnings event.object).map .logged ++ change.2)
    | .deleted => r.stop name "scheduled backup deleted"

/-- Whether every tracker that was started has finished. -/
def isDrained (r : Roster) : Bool :=
  r.trackers.all (·.isFinished)

/-- The number of trackers that have not finished. -/
def running (r : Roster) : Nat :=
  (r.trackers.filter (!·.isFinished)).length

/-- Changes the open watch of every tracker in a way of its own. -/
def withFeeds (r : Roster) (F : Nat → Feed → Feed) : Roster :=
  { r with trackers := r.trackers.mapIdx fun index t => t.updateFeed (F index) }

/-- Counts one more time that the roster is empty, if that has come about between `r` and `after`:
it is closed and without a running tracker, and was not both before. -/
def noteEmptied (r after : Roster) : Roster :=
  if after.closed && after.isDrained && !(r.closed && r.isDrained) then
    { after with emptied := after.emptied + 1 }
  else after

/-- Puts a tracker into another stage. -/
def setStage (r : Roster) (index : Nat) (stage : TrackerStage) : Roster :=
  r.noteEmptied { r with trackers := r.trackers.modify index ({ · with stage }) }

/-- Closes the roster. -/
def close (r : Roster) : Roster :=
  r.noteEmptied { r with closed := true }

/-- Opens the roster. -/
def reopen (r : Roster) : Roster :=
  { r with closed := false }

/-- Whether all trackers have finished for somebody who waits since the roster had been empty that
often. It does not matter if new trackers were started after that. -/
def hasEmptiedSince (r : Roster) (count : Nat) : Bool :=
  (r.closed && r.isDrained) || decide (count < r.emptied)

end Roster

end BackupMonitor
