import BackupMonitor.Engine.Watcher
import Mathlib.Tactic.Lemma

/-!
# The steps of the tasks

`Tracker.Step` and `Watcher.Step` list what a task can do next, one constructor for each thing,
with the condition under which it does it. `Tracker.step_cases` and `Watcher.step_cases` say that
a task can do nothing else, so that a property of all steps has one case per constructor.
-/

namespace BackupMonitor

/-- A call that succeeds brings what the server has ready. -/
lemma View.eq_of_answer_ok {α : Type} {view : View} {verb : Verb} {kind : ResourceKind}
    {success result : α} (h : view.answer verb kind success = some (.ok result)) :
    result = success := by
  simp only [answer] at h
  split at h
  · cases h
  · split at h
    · cases h
    · exact (Except.ok.inj (Option.some.inj h)).symm

/-! ## Trackers -/

/-- Whether the tracker looks at its token before it does anything else: it is neither new, nor
handing out a report, nor finished. -/
def TrackerStage.isCancellable : TrackerStage → Bool
  | .spawned => false
  | .delivering .. => false
  | .finished _ => false
  | _ => true

namespace Tracker

/-- The steps of the tracker of a schedule: its stage, its next stage, and what it does. -/
inductive Step (view : View) (schedule : String) :
    TrackerStage → TrackerStage → List Occurrence → Prop where
  /-- It begins to run. -/
  | begin : Step view schedule .spawned .ready [.measured .trackerStarted]
  /-- It sees that it is cancelled. -/
  | cancel {stage : TrackerStage} (hcancel : view.cancelled = true)
      (hstage : stage.isCancellable = true) :
      Step view schedule stage (finish none).1 (finish none).2
  /-- It asks for the backups. -/
  | callList (hcancel : view.cancelled = false) :
      Step view schedule .ready .listing [.called ⟨view.setup.space, .list .backup⟩]
  /-- Its list fails. -/
  | listFails {e : TaskError} (hcancel : view.cancelled = false)
      (hanswer : view.answer .list .backup (view.listing .backup) = some (.error e)) :
      Step view schedule .listing (finish (some e)).1 (.refused e :: (finish (some e)).2)
  /-- Its list succeeds. -/
  | listed (hcancel : view.cancelled = false)
      (hanswer : view.answer .list .backup (view.listing .backup) =
        some (.ok (view.listing .backup))) :
      Step view schedule .listing (.listed (view.listing .backup).cursor)
        [.listed .backup (view.listing .backup)]
  /-- It asks for a watch. -/
  | callWatch {cursor : String} (hcancel : view.cancelled = false) :
      Step view schedule (.listed cursor) (.opening cursor)
        [.called ⟨view.setup.space, .watch .backup cursor⟩]
  /-- Its watch fails. -/
  | watchFails {cursor : String} {e : TaskError} (hcancel : view.cancelled = false)
      (hanswer : view.answer .watch .backup () = some (.error e)) :
      Step view schedule (.opening cursor) (finish (some e)).1 (.refused e :: (finish (some e)).2)
  /-- Its watch is opened. -/
  | opened {cursor : String} (hcancel : view.cancelled = false)
      (hanswer : view.answer .watch .backup () = some (.ok ())) :
      Step view schedule (.opening cursor) (.following {} ∅) [.opened .backup]
  /-- It takes an event. -/
  | take {feed : Feed} {tracked : Tracked} {event : Event} {queue : List Event}
      (hcancel : view.cancelled = false) (hqueue : feed.queue = event :: queue) :
      Step view schedule (.following feed tracked)
        (take view.setup schedule { feed with queue } tracked event).1
        (take view.setup schedule { feed with queue } tracked event).2
  /-- It sees the end of its watch. -/
  | sawEnd {feed : Feed} {tracked : Tracked} (hcancel : view.cancelled = false)
      (hqueue : feed.queue = []) (hclosed : feed.closed = true) :
      Step view schedule (.following feed tracked) .ready
        [.sawEnd .backup, .measured (.restart ResourceKind.backup.plural)]
  /-- It hands a report to the next sink. -/
  | deliver {feed : Feed} {tracked : Tracked} {report : Report} {place : Nat}
      (hheld : view.sinksHeld = false) :
      Step view schedule (.delivering feed tracked report place)
        (deliver view feed tracked report place).1 (deliver view feed tracked report place).2

/-- A tracker takes no other steps. -/
theorem step_cases {view : View} {t : Tracker} {stage : TrackerStage} {did : List Occurrence}
    (h : t.step view = some (stage, did)) : Step view t.schedule t.stage stage did := by
  obtain ⟨schedule, token, now⟩ := t
  -- every stage but three is left by way of the token
  have hcancelled {now : TrackerStage} (hstage : now.isCancellable = true)
      (h : (if view.cancelled then some (finish none) else proceed view schedule now) =
        some (stage, did))
      (hproceed : view.cancelled = false → proceed view schedule now = some (stage, did) →
        Step view schedule now stage did) : Step view schedule now stage did := by
    split at h
    next hcancel =>
      obtain ⟨rfl, rfl⟩ := Prod.mk.inj (Option.some.inj h)
      exact .cancel hcancel hstage
    next hcancel => exact hproceed (by simpa using hcancel) h
  cases now with
  | spawned =>
    obtain ⟨rfl, rfl⟩ := Prod.mk.inj (Option.some.inj h)
    exact .begin
  | ready =>
    refine hcancelled rfl h fun hcancel h => ?_
    obtain ⟨rfl, rfl⟩ := Prod.mk.inj (Option.some.inj h)
    exact .callList hcancel
  | listing =>
    refine hcancelled rfl h fun hcancel h => ?_
    simp only [proceed] at h
    split at h
    next => cases h
    next e hanswer =>
      obtain ⟨rfl, rfl⟩ := Prod.mk.inj (Option.some.inj h)
      exact .listFails hcancel hanswer
    next listing hanswer =>
      obtain ⟨rfl, rfl⟩ := Prod.mk.inj (Option.some.inj h)
      obtain rfl := View.eq_of_answer_ok hanswer
      exact .listed hcancel hanswer
  | listed cursor =>
    refine hcancelled rfl h fun hcancel h => ?_
    obtain ⟨rfl, rfl⟩ := Prod.mk.inj (Option.some.inj h)
    exact .callWatch hcancel
  | opening cursor =>
    refine hcancelled rfl h fun hcancel h => ?_
    simp only [proceed] at h
    split at h
    next => cases h
    next e hanswer =>
      obtain ⟨rfl, rfl⟩ := Prod.mk.inj (Option.some.inj h)
      exact .watchFails hcancel hanswer
    next hanswer =>
      obtain ⟨rfl, rfl⟩ := Prod.mk.inj (Option.some.inj h)
      exact .opened hcancel hanswer
  | following feed tracked =>
    refine hcancelled rfl h fun hcancel h => ?_
    simp only [proceed] at h
    split at h
    next event queue hqueue =>
      obtain ⟨rfl, rfl⟩ := Prod.mk.inj (Option.some.inj h)
      exact .take hcancel hqueue
    next hqueue =>
      split at h
      next hclosed =>
        obtain ⟨rfl, rfl⟩ := Prod.mk.inj (Option.some.inj h)
        exact .sawEnd hcancel hqueue hclosed
      next => cases h
  | delivering feed tracked report place =>
    simp only [step] at h
    split at h
    next => cases h
    next hheld =>
      obtain ⟨rfl, rfl⟩ := Prod.mk.inj (Option.some.inj h)
      exact .deliver (by simpa using hheld)
  | finished error => cases h

end Tracker

/-! ## Watchers -/

/-- Whether the watcher looks at its token before it does anything else: it is neither new, nor
waiting for its trackers, nor finished. -/
def WatcherStage.isCancellable : WatcherStage → Bool
  | .spawned => false
  | .draining .. => false
  | .finished _ => false
  | _ => true

namespace Watcher

/-- The steps of the watcher of a cluster: its stage, and what the step leaves behind. -/
inductive Step (view : View) (r : Roster) (cluster : String) :
    WatcherStage → WatcherChange → Prop where
  /-- It begins to run. -/
  | begin : Step view r cluster .spawned
      { stage := .ready, roster := r, did := [.logged (greeting view cluster)] }
  /-- All trackers have finished, and it starts over. -/
  | relist {count : Nat} (hempty : r.hasEmptiedSince count = true) :
      Step view r cluster (.draining .relist count) (afterDrain r .relist)
  /-- All trackers have finished, and so does it. -/
  | finish {error : Option TaskError} {count : Nat} (hempty : r.hasEmptiedSince count = true) :
      Step view r cluster (.draining (.finish error) count) (afterDrain r (.finish error))
  /-- It sees that it is cancelled. -/
  | cancel {stage : WatcherStage} (hcancel : view.cancelled = true)
      (hstage : stage.isCancellable = true) :
      Step view r cluster stage (drain r (.finish none) [])
  /-- It asks for the schedules. -/
  | callList (hcancel : view.cancelled = false) : Step view r cluster .ready
      { stage := .listing
        roster := r
        did := [.called ⟨view.setup.space, .list .scheduledBackup⟩] }
  /-- Its list fails. -/
  | listFails {e : TaskError} (hcancel : view.cancelled = false)
      (hanswer : view.answer .list .scheduledBackup (view.listing .scheduledBackup) =
        some (.error e)) :
      Step view r cluster .listing (drain r (.finish (some e)) [.refused e])
  /-- Its list succeeds, and it starts the trackers. -/
  | listed (hcancel : view.cancelled = false)
      (hanswer : view.answer .list .scheduledBackup (view.listing .scheduledBackup) =
        some (.ok (view.listing .scheduledBackup))) :
      Step view r cluster .listing
        { stage := .listed (view.listing .scheduledBackup).cursor
          roster := (r.enlistAll cluster (view.listing .scheduledBackup).items).1
          did := .listed .scheduledBackup (view.listing .scheduledBackup) ::
            (r.enlistAll cluster (view.listing .scheduledBackup).items).2 }
  /-- It asks for a watch. -/
  | callWatch {cursor : String} (hcancel : view.cancelled = false) :
      Step view r cluster (.listed cursor)
        { stage := .opening cursor
          roster := r
          did := [.called ⟨view.setup.space, .watch .scheduledBackup cursor⟩] }
  /-- Its watch fails. -/
  | watchFails {cursor : String} {e : TaskError} (hcancel : view.cancelled = false)
      (hanswer : view.answer .watch .scheduledBackup () = some (.error e)) :
      Step view r cluster (.opening cursor) (drain r (.finish (some e)) [.refused e])
  /-- Its watch is opened. -/
  | opened {cursor : String} (hcancel : view.cancelled = false)
      (hanswer : view.answer .watch .scheduledBackup () = some (.ok ())) :
      Step view r cluster (.opening cursor)
        { stage := .following {}, roster := r, did := [.opened .scheduledBackup] }
  /-- It takes an event and keeps the roster in line with it. -/
  | take {feed : Feed} {event : Event} {queue : List Event} (hcancel : view.cancelled = false)
      (hqueue : feed.queue = event :: queue) :
      Step view r cluster (.following feed)
        { stage := .following { feed with queue }
          roster := (r.consider cluster event).1
          did := .took event :: (r.consider cluster event).2 }
  /-- It sees the end of its watch. -/
  | sawEnd {feed : Feed} (hcancel : view.cancelled = false) (hqueue : feed.queue = [])
      (hclosed : feed.closed = true) :
      Step view r cluster (.following feed)
        (drain r .relist [.sawEnd .scheduledBackup,
          .measured (.restart ResourceKind.scheduledBackup.plural)])

/-- A watcher takes no other steps. -/
theorem step_cases {view : View} {r : Roster} {w : Watcher} {change : WatcherChange}
    (h : w.step view r = some change) : Step view r w.cluster w.stage change := by
  obtain ⟨cluster, now⟩ := w
  -- every stage but three is left by way of the token
  have hcancelled {now : WatcherStage} (hstage : now.isCancellable = true)
      (h : (if view.cancelled then some (drain r (.finish none) [])
        else proceed view r cluster now) = some change)
      (hproceed : view.cancelled = false → proceed view r cluster now = some change →
        Step view r cluster now change) : Step view r cluster now change := by
    split at h
    next hcancel =>
      obtain rfl := Option.some.inj h
      exact .cancel hcancel hstage
    next hcancel => exact hproceed (by simpa using hcancel) h
  cases now with
  | spawned =>
    obtain rfl := Option.some.inj h
    exact .begin
  | ready =>
    refine hcancelled rfl h fun hcancel h => ?_
    obtain rfl := Option.some.inj h
    exact .callList hcancel
  | listing =>
    refine hcancelled rfl h fun hcancel h => ?_
    simp only [proceed] at h
    split at h
    next => cases h
    next e hanswer =>
      obtain rfl := Option.some.inj h
      exact .listFails hcancel hanswer
    next listing hanswer =>
      obtain rfl := Option.some.inj h
      obtain rfl := View.eq_of_answer_ok hanswer
      exact .listed hcancel hanswer
  | listed cursor =>
    refine hcancelled rfl h fun hcancel h => ?_
    obtain rfl := Option.some.inj h
    exact .callWatch hcancel
  | opening cursor =>
    refine hcancelled rfl h fun hcancel h => ?_
    simp only [proceed] at h
    split at h
    next => cases h
    next e hanswer =>
      obtain rfl := Option.some.inj h
      exact .watchFails hcancel hanswer
    next hanswer =>
      obtain rfl := Option.some.inj h
      exact .opened hcancel hanswer
  | following feed =>
    refine hcancelled rfl h fun hcancel h => ?_
    simp only [proceed] at h
    split at h
    next event queue hqueue =>
      obtain rfl := Option.some.inj h
      exact .take hcancel hqueue
    next hqueue =>
      split at h
      next hclosed =>
        obtain rfl := Option.some.inj h
        exact .sawEnd hcancel hqueue hclosed
      next => cases h
  | draining after count =>
    simp only [step] at h
    split at h
    next hempty =>
      obtain rfl := Option.some.inj h
      cases after with
      | relist => exact .relist hempty
      | finish error => exact .finish hempty
    next => cases h
  | finished error => cases h

@[simp] lemma cluster_updateFeed (w : Watcher) (f : Feed → Feed) :
    (w.updateFeed f).cluster = w.cluster := by
  unfold updateFeed
  split <;> rfl

end Watcher

end BackupMonitor
