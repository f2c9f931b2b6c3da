import BackupMonitor.Proofs.Upkeep
import BackupMonitor.Proofs.WatcherInvariant

/-!
# The end of a watcher

A watcher stops every tracker and waits for all of them before it lists again and before it
finishes. `WatcherStage.Awaits` is what is known of the trackers at each stage of a watcher: outside
of a cycle all of them have finished, and while the watcher waits the roster counts when that comes
about. It is kept by the steps of the watcher and of the trackers alike, so once the watcher has
finished there is nobody left who could do anything (`WatcherRun.nothing_outlives`).
-/

namespace BackupMonitor

namespace Roster

variable {r : Roster} {index : Nat} {t : Tracker}

lemma isDrained_iff : r.isDrained = true ↔ ∀ t ∈ r.trackers, t.isFinished = true :=
  List.all_eq_true

/-- No tracker is running exactly if all of them have finished. -/
lemma running_eq_zero_iff : r.running = 0 ↔ r.isDrained = true := by
  unfold running
  rw [List.length_eq_zero_iff, List.filter_eq_nil_iff, isDrained_iff]
  simp

lemma isDrained_eq_false (ht : r.trackers[index]? = some t) (hrunning : t.isFinished = false) :
    r.isDrained = false := by
  rw [Bool.eq_false_iff]
  intro hdrained
  rw [isDrained_iff.mp hdrained t (List.mem_of_getElem? ht)] at hrunning
  cases hrunning

@[simp] lemma isDrained_withFeeds (r : Roster) (F : Nat → Feed → Feed) :
    (r.withFeeds F).isDrained = r.isDrained := by
  have hall (r : Roster) : r.isDrained = (r.trackers.map (·.isFinished)).all id := by
    rw [List.all_map]
    rfl
  rw [hall, hall, map_withFeeds Tracker.isFinished_updateFeed]

lemma closed_close (r : Roster) : r.close.closed = true := by
  obtain ⟨emptied, hclose⟩ := exists_noteEmptied_eq r { r with closed := true }
  unfold close
  rw [hclose]

/-- Whoever sees that the roster ran empty sees that all trackers have finished. -/
lemma isDrained_of_hasEmptiedSince {count : Nat}
    (hcount : count < r.emptied → r.isDrained = true) (h : r.hasEmptiedSince count = true) :
    r.isDrained = true := by
  unfold hasEmptiedSince at h
  rw [Bool.or_eq_true, Bool.and_eq_true, decide_eq_true_iff] at h
  rcases h with ⟨-, hdrained⟩ | hlt
  · exact hdrained
  · exact hcount hlt

/-- A roster that is counted as empty once more, when a tracker moves on, is empty. -/
lemma isDrained_setStage {count : Nat} (hcount : count < r.emptied → r.isDrained = true)
    (hrunning : r.isDrained = false) (index : Nat) (stage : TrackerStage)
    (h : count < (r.setStage index stage).emptied) : (r.setStage index stage).isDrained = true := by
  simp only [setStage, noteEmptied] at h ⊢
  split
  next hempty =>
    simp only [Bool.and_eq_true] at hempty
    exact hempty.1.2
  next hempty =>
    rw [if_neg hempty] at h
    rw [hcount h] at hrunning
    cases hrunning

lemma closed_setStage (r : Roster) (index : Nat) (stage : TrackerStage) :
    (r.setStage index stage).closed = r.closed := by
  simp only [setStage, noteEmptied]
  split <;> rfl

end Roster

/-! ## What is known of the trackers -/

/-- What holds of the roster at a stage of the only watcher. In a cycle there is nothing to say.
While the watcher waits, the roster is closed and has been counted as empty only if it is. At any
other stage all trackers have finished. -/
def WatcherStage.Awaits (r : Roster) : WatcherStage → Prop
  | .listed _ => True
  | .opening _ => True
  | .following _ => True
  | .draining _ count => r.closed = true ∧ (count < r.emptied → r.isDrained = true)
  | _ => r.isDrained = true

namespace Watcher

lemma awaits_drain (r : Roster) (next : AfterDrain) (did : List Occurrence) :
    (drain r next did).stage.Awaits (drain r next did).roster :=
  ⟨Roster.closed_close _, fun h => absurd h (Nat.lt_irrefl _)⟩

/-- A step of the watcher keeps what is known of the trackers. -/
lemma Step.awaits {view : View} {r : Roster} {cluster : String} {stage : WatcherStage}
    {change : WatcherChange} (h : Step view r cluster stage change) (hawaits : stage.Awaits r) :
    change.stage.Awaits change.roster := by
  cases h with
  | begin => exact hawaits
  | relist hempty =>
    have hdrained : r.isDrained = true := Roster.isDrained_of_hasEmptiedSince hawaits.2 hempty
    exact hdrained
  | finish hempty =>
    have hdrained : r.isDrained = true := Roster.isDrained_of_hasEmptiedSince hawaits.2 hempty
    exact hdrained
  | cancel => exact awaits_drain r _ _
  | callList => exact hawaits
  | listFails => exact awaits_drain r _ _
  | listed => trivial
  | callWatch => trivial
  | watchFails => exact awaits_drain r _ _
  | opened => trivial
  | take => trivial
  | sawEnd => exact awaits_drain r _ _

end Watcher

/-- A tracker that moves on keeps what is known of the trackers. -/
lemma WatcherStage.Awaits.setStage {r : Roster} {now : WatcherStage} (h : now.Awaits r)
    {index : Nat} {t : Tracker} (ht : r.trackers[index]? = some t)
    (hrunning : t.isFinished = false) (stage : TrackerStage) :
    now.Awaits (r.setStage index stage) := by
  have hdrained := Roster.isDrained_eq_false ht hrunning
  -- where all trackers have finished, none of them can move on
  have hnever {Q : Prop} (h : r.isDrained = true) : Q := by
    rw [hdrained] at h
    cases h
  cases now with
  | draining next count =>
    obtain ⟨hclosed, hcount⟩ := h
    exact ⟨by rw [Roster.closed_setStage, hclosed],
      Roster.isDrained_setStage hcount hdrained index stage⟩
  | listed cursor => trivial
  | opening cursor => trivial
  | following feed => trivial
  | spawned => exact hnever h
  | ready => exact hnever h
  | listing => exact hnever h
  | finished error => exact hnever h

/-- What comes in over the watches keeps what is known of the trackers. -/
lemma WatcherStage.Awaits.withFeeds {r : Roster} {now : WatcherStage} (h : now.Awaits r)
    (F : Nat → Feed → Feed) : now.Awaits (r.withFeeds F) := by
  have hdrained := r.isDrained_withFeeds F
  cases now with
  | draining next count => exact ⟨h.1, fun hlt => hdrained.trans (h.2 hlt)⟩
  | listed cursor => trivial
  | opening cursor => trivial
  | following feed => trivial
  | _ => exact hdrained.trans h

/-- What the stage of the only watcher says of the trackers is kept. -/
lemma Watcher.isKept_awaits (cluster : String) :
    IsKept cluster fun stage r _ => stage.Awaits r where
  watcher hstep h := hstep.awaits h
  tracker ht hrunning h stage := h.setStage ht hrunning stage
  backups h F := h.withFeeds F
  schedules _ _ := trivial
  cancel {r stage past} h := by
    cases stage <;> exact h

namespace System

variable {setup : Setup} {cluster : String} {s : System} {w : Watcher}

/-- In the run of a watcher, what its stage says of the trackers holds. -/
theorem WatcherRun.awaits (h : WatcherRun setup cluster s) (hw : s.watchers = [w]) :
    w.stage.Awaits s.roster :=
  ((Watcher.isKept_awaits cluster).watcherRun
    (fun r htrackers _ => Roster.isDrained_iff.mpr (by simp [htrackers])) h).of_watchers_eq hw

/-! ## After the end -/

/-- The only watcher has finished, and so have all trackers. -/
structure IsOver (w : Watcher) (trace : Trace) (s : System) : Prop where
  /-- The watcher is the only one. -/
  watchers : s.watchers = [w]
  /-- It has finished. -/
  finished : ∃ error, w.stage = .finished error
  /-- Nothing is registered. -/
  registry : s.roster.registry = ∅
  /-- All trackers have finished. -/
  drained : s.roster.isDrained = true
  /-- This is all that was done. -/
  trace : s.trace = trace

namespace IsOver

variable {trace : Trace}

/-- Nobody is left who could take a step. -/
lemma step_eq_none (h : IsOver w trace s) (task : TaskId) : s.step setup task = none := by
  cases hnext : s.step setup task with
  | none => rfl
  | some next =>
    cases task with
    | watcher index =>
      obtain ⟨change, -, hchange, -⟩ := step_watcher_of_alone h.watchers hnext
      obtain ⟨error, herror⟩ := h.finished
      simp only [Watcher.step, herror] at hchange
      cases hchange
    | tracker index =>
      obtain ⟨t, stage, did, ht, hdid, -⟩ := step_tracker_eq_some hnext
      have hrunning := (Tracker.step_cases hdid).isFinished_eq_false
      have hdrained := h.drained
      rw [Roster.isDrained_eq_false ht hrunning] at hdrained
      cases hdrained

/-- Input that starts no task changes nothing about that. -/
lemma apply (h : IsOver w trace s) {input : Input} (hrole : input.role? = none) :
    IsOver w trace (s.apply input) := by
  have hfeeds (F : TaskId → Feed → Feed) : IsOver w trace (s.withFeeds F) := by
    obtain ⟨error, herror⟩ := h.finished
    refine ⟨?_, h.finished, h.registry, (s.roster.isDrained_withFeeds _).trans h.drained, h.trace⟩
    simp [withFeeds, h.watchers, Watcher.updateFeed, herror]
  cases input with
  | start role => cases hrole
  | event => exact hfeeds _
  | close => exact hfeeds _
  | arrive => exact hfeeds _
  | items => exact ⟨h.watchers, h.finished, h.registry, h.drained, h.trace⟩
  | fault => exact ⟨h.watchers, h.finished, h.registry, h.drained, h.trace⟩
  | hold => exact ⟨h.watchers, h.finished, h.registry, h.drained, h.trace⟩
  | holdSinks => exact ⟨h.watchers, h.finished, h.registry, h.drained, h.trace⟩
  | cancel => exact ⟨h.watchers, h.finished, h.registry, h.drained, h.trace⟩

lemma leadsTo {later : System} (hlater : LeadsTo setup s later) (h : IsOver w trace s) :
    IsOver w trace later := by
  refine hlater.invariant (fun _ _ hrole h => h.apply hrole) (fun s task next h hstep => ?_) h
  rw [h.step_eq_none] at hstep
  cases hstep

end IsOver

/-- When a watcher has finished, well or with an error, nothing is registered and no tracker is
running, and that is the end: whatever comes in later, the trace gets no further entry, so there is
no further call, no further report and no further measurement. -/
theorem WatcherRun.nothing_outlives (h : WatcherRun setup cluster s) (hw : s.watchers = [w])
    {error : Option TaskError} (hfinished : w.stage = .finished error) :
    s.roster.registry = ∅ ∧ s.roster.running = 0 ∧
      ∀ later, LeadsTo setup s later → later.roster.registry = ∅ ∧ later.roster.running = 0 ∧
        later.trace = s.trace := by
  have hregistry : s.roster.registry = ∅ :=
    (h.reachable.isInLine.one w hw).empty (by rw [hfinished]; rfl)
  have hdrained : s.roster.isDrained = true := by
    have hawaits := h.awaits hw
    rw [hfinished] at hawaits
    exact hawaits
  refine ⟨hregistry, Roster.running_eq_zero_iff.mpr hdrained, fun later hlater => ?_⟩
  have hover : IsOver w s.trace later :=
    IsOver.leadsTo hlater ⟨hw, ⟨error, hfinished⟩, hregistry, hdrained, rfl⟩
  exact ⟨hover.registry, Roster.running_eq_zero_iff.mpr hover.drained, hover.trace⟩

end System

namespace Sample

/-- The watch of the schedules fails while the tracker that the listing started is blocked in a
sink. The sinks are released, the tracker hands out its report and finishes, and then the watcher
finishes. -/
def refusedWatch : List Move :=
  .input (.items .scheduledBackup [schedule (some "nightly") (.string "main")]) ::
    .input (.start (.watcher "main")) :: List.replicate 4 (.step (.watcher 0)) ++ steps 5 ++
    .input (.holdSinks true) :: news .modified (failed "b1") :: steps 1 ++
    [.input (.fault .watch .scheduledBackup (some "gone")), .step (.watcher 0),
      .input (.holdSinks false)] ++ steps 3 ++ [.step (.watcher 0)]

/-- The watcher by then. -/
def refused : Watcher where
  cluster := "main"
  stage := .finished (some (.call .watch "scheduledbackups" "gone"))

end Sample

/-- A watcher whose watch failed waits for a tracker that is blocked in a sink: once it has
finished both sinks have had the report, and a further failure is reported by nobody. -/
theorem System.nothing_outlives_refusedWatch :
    WatcherRun Sample.setup "main" (Sample.systemAfter Sample.refusedWatch) ∧
      (Sample.systemAfter Sample.refusedWatch).watchers = [Sample.refused] ∧
      (Sample.systemAfter Sample.refusedWatch).trace.deliveries.map (·.place) = [0, 1] ∧
      (Sample.systemAfter Sample.refusedWatch).roster.running = 0 ∧
      ∀ moves later, moves.filterMap Move.role? = [] →
        (Sample.systemAfter Sample.refusedWatch).play Sample.setup
          (Sample.news .modified (Sample.failed "b2") :: moves) = some later →
        later.trace = (Sample.systemAfter Sample.refusedWatch).trace := by
  have h : WatcherRun Sample.setup "main" (Sample.systemAfter Sample.refusedWatch) :=
    ⟨Sample.refusedWatch, rfl, rfl⟩
  have hw : (Sample.systemAfter Sample.refusedWatch).watchers = [Sample.refused] := rfl
  obtain ⟨-, hrunning, hlater⟩ := WatcherRun.nothing_outlives h hw rfl
  refine ⟨h, hw, rfl, hrunning, fun moves later hroles hplay => ?_⟩
  exact (hlater later ⟨_, hroles, hplay⟩).2.2

end BackupMonitor
