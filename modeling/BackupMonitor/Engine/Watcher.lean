import BackupMonitor.Engine.Roster
/-!
# The watcher of the schedules

The watcher keeps one tracker for each schedule of its cluster. It lists the schedules, starts the
trackers, watches the schedules from there and keeps the roster in line with every change.

When its watch ends, when it is cancelled and when a call of its own fails, it stops every tracker
and waits until all of them have finished. Only then does it list again, or finish.

Several watchers may share a roster. Each of them stops and awaits the trackers of all.
-/

namespace BackupMonitor

/-- What a watcher does once all trackers have finished. -/
inductive AfterDrain where
  /-- It lists the schedules again. -/
  | relist
  /-- It finishes, well or with an error. -/
  | finish (error : Option TaskError)

/-- What is left to do of a watcher. -/
inductive WatcherStage where
  /-- It has not run yet. -/
  | spawned
  /-- It is about to list. -/
  | ready
  /-- It waits for the answer to its list. -/
  | listing
  /-- It is about to watch. -/
  | listed (cursor : String)
  /-- It waits for its watch to be opened. -/
  | opening (cursor : String)
  /-- It waits for an event. -/
  | following (feed : Feed)
  /-- It waits for all trackers to finish, since the roster had been empty that often. -/
  | draining (next : AfterDrain) (count : Nat)
  /-- It has finished, well or with an error. -/
  | finished (error : Option TaskError)

/-- A watcher of the schedules of one cluster. -/
structure Watcher where
  /-- The name of the cluster. -/
  cluster : String
  /-- What is left to do. -/
  stage : WatcherStage := .spawned

/-- A step of a watcher. -/
structure WatcherChange where
  /-- What is left to do afterwards. -/
  stage : WatcherStage
  /-- The roster afterwards. -/
  roster : Roster
  /-- What it did. -/
  did : List Occurrence := []

namespace Watcher

/-- Stops every tracker and waits for them. -/
def drain (r : Roster) (next : AfterDrain) (did : List Occurrence) : WatcherChange :=
  let change := r.stopAll
  let closed := change.1.close
  { stage := .draining next closed.emptied, roster := closed, did := did ++ change.2 }

/-- What a watcher that is not cancelled does next; `none` if it has to wait. -/
def proceed (view : View) (r : Roster) (cluster : String) :
    WatcherStage → Option WatcherChange
  | .ready =>
    some
      { stage := .listing
        roster := r
        did := [.called ⟨view.setup.space, .list .scheduledBackup⟩] }
  | .listing =>
    match view.answer .list .scheduledBackup (view.listing .scheduledBackup) with
    | none => none
    | some (.error e) => some (drain r (.finish e) [.refused e])
    | some (.ok listing) =>
      let change := r.enlistAll cluster listing.items
      some
        { stage := .listed listing.cursor
          roster := change.1
          did := .listed .scheduledBackup listing :: change.2 }
  | .listed cursor =>
    some
      { stage := .opening cursor
        roster := r
        did := [.called ⟨view.setup.space, .watch .scheduledBackup cursor⟩] }
  | .opening _ =>
    match view.answer .watch .scheduledBackup () with
    | none => none
    | some (.error e) => some (drain r (.finish e) [.refused e])
    | some (.ok ()) =>
      some { stage := .following {}, roster := r, did := [.opened .scheduledBackup] }
  | .following feed =>
    match feed.queue with
    | event :: queue =>
      let change := r.consider cluster event
      some
        { stage := .following { feed with queue }
          roster := change.1
          did := .took event :: change.2 }
    | [] =>
      if feed.closed then
        some (drain r .relist [.sawEnd .scheduledBackup,
          .measured (.restart ResourceKind.scheduledBackup.plural)])
      else none
  | _ => none

/-- What a watcher does once all trackers have finished. -/
def afterDrain (r : Roster) : AfterDrain → WatcherChange
  | .relist => { stage := .ready, roster := r.reopen }
  | .finish error => { stage := .finished error, roster := r.reopen, did := [.finished error] }

/-- What is logged when the watcher begins. -/
def greeting (view : View) (cluster : String) : Log.Line :=
  ⟨.watcher, .info, "starting to watch scheduled backups",
    [("cluster", cluster), ("namespace", view.setup.space)]⟩

/-- One step of a watcher; `none` if it waits or has finished. -/
def step (view : View) (r : Roster) (w : Watcher) : Option WatcherChange :=
  match w.stage with
  | .spawned => some { stage := .ready, roster := r, did := [.logged (greeting view w.cluster)] }
  | .draining next count =>
    if r.hasEmptiedSince count then some (afterDrain r next) else none
  | .finished _ => none
  | stage =>
    if view.cancelled then some (drain r (.finish none) [])
    else proceed view r w.cluster stage

/-- Whether the watcher has a watch that was not ended. -/
def isWatching (w : Watcher) : Bool :=
  match w.stage with
  | .following feed => !feed.closed
  | _ => false

/-- Changes the open watch of the watcher, if it has one. -/
def updateFeed (w : Watcher) (f : Feed → Feed) : Watcher :=
  match w.stage with
  | .following feed => { w with stage := .following (f feed) }
  | _ => w

/-! ## How much is left to do

Each step of a watcher lowers its own budget by more than the budget of the trackers it starts. -/

/-- An upper bound of the steps that one more listing with that many items leads to. -/
def relistBudget (items : Nat) : Nat :=
  6 + 7 * items

/-- An upper bound of the steps that a watcher and the trackers it starts can take before new input
arrives; `items` is how many schedules the server lists. -/
def budget (items : Nat) (w : Watcher) : Nat :=
  match w.stage with
  | .spawned => relistBudget items + 1
  | .ready => relistBudget items
  | .listing => 5 + 7 * items
  | .listed _ => 4
  | .opening _ => 3
  | .following feed =>
    2 + feed.queue.length * 7 + (if feed.closed then relistBudget items + 1 else 0)
  | .draining .relist _ => relistBudget items + 1
  | .draining (.finish _) _ => 1
  | .finished _ => 0

end Watcher

end BackupMonitor
