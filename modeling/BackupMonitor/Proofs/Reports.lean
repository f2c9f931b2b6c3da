import BackupMonitor.Proofs.Observations
import BackupMonitor.Proofs.TrackerHistory
import Mathlib.Data.List.Basic

/-!
# What the sinks are handed

A tracker is a loop with a memory that is interrupted, held up and started over. What its sinks
are handed is nevertheless the list of the reports that its events make, taken one by one.

The invariant counts a report from the moment its event is taken: what a sink was handed, followed
by what is still due to it, is what the events made (`Tracker.History.handed_append_due`). No step
but a delivery touches either side, and a delivery moves one report from the second part to the
first.
-/

namespace BackupMonitor

open Occurrence

namespace Delivery

@[simp] lemma reportsAt_append (place : Nat) (xs ys : List Delivery) :
    reportsAt place (xs ++ ys) = reportsAt place xs ++ reportsAt place ys := by
  unfold reportsAt
  rw [List.filter_append, List.map_append]

end Delivery

/-! ## Reports that are still due -/

namespace TrackerStage

/-- The reports that the sink at a place has yet to be handed. -/
def dueAt (place : Nat) : TrackerStage → List Report
  | .delivering _ _ report next => if next ≤ place then [report] else []
  | _ => []

/-- If a report is being handed out, the sink that is next exists. -/
def HasNextSink (setup : Setup) : TrackerStage → Prop
  | .delivering _ _ _ next => next < setup.sinks.length
  | _ => True

/-- A tracker that hands out no report owes no sink a report. -/
lemma dueAt_eq_nil {stage : TrackerStage}
    (h : ∀ feed tracked report place, stage ≠ .delivering feed tracked report place)
    (place : Nat) : stage.dueAt place = [] := by
  unfold dueAt
  split
  next => exact absurd rfl (h _ _ _ _)
  next => rfl

/-- A tracker without a memory owes no sink a report. -/
lemma dueAt_of_isBlank {stage : TrackerStage} (h : stage.IsBlank) (place : Nat) :
    stage.dueAt place = [] := by
  refine dueAt_eq_nil ?_ place
  rintro feed tracked report next rfl
  exact h

lemma hasNextSink_of_isBlank {setup : Setup} {stage : TrackerStage} (h : stage.IsBlank) :
    stage.HasNextSink setup := by
  unfold HasNextSink
  split
  next => exact h.elim
  next => trivial

end TrackerStage

namespace Tracker

variable {setup : Setup} {view : View} {schedule : String} {stage stage' : TrackerStage}
  {did past : List Occurrence} {place : Nat}

@[simp] lemma dueAt_updateFeed (t : Tracker) (f : Feed → Feed) (place : Nat) :
    (t.updateFeed f).stage.dueAt place = t.stage.dueAt place :=
  stage_updateFeed (P := fun stage => stage.dueAt place = t.stage.dueAt place) f
    (fun _ _ h => h) (fun _ _ _ _ h => h) rfl

lemma hasNextSink_updateFeed {t : Tracker} (h : t.stage.HasNextSink setup) (f : Feed → Feed) :
    (t.updateFeed f).stage.HasNextSink setup :=
  stage_updateFeed f (fun _ _ h => h) (fun _ _ _ _ h => h) h

/-! ## Taking an event and handing out a report -/

/-- Taking an event makes its report due to every sink. -/
lemma dueAt_take (feed : Feed) (tracked : Tracked) (event : Event)
    (hplace : place < setup.sinks.length) :
    (take setup schedule feed tracked event).1.dueAt place =
      (event.report? schedule).toList := by
  have hsinks : setup.sinks.isEmpty = false := by
    rw [List.isEmpty_eq_false_iff]
    exact List.ne_nil_of_length_pos (by omega)
  simp only [take, react_report, hsinks]
  cases event.report? schedule with
  | none => rfl
  | some report => simp [TrackerStage.dueAt]

/-- Handing out a report brings it to the sink that is next and to no other. -/
lemma reportsAt_deliver (feed : Feed) (tracked : Tracked) (report : Report) {next : Nat}
    (hnext : next < view.setup.sinks.length) :
    Delivery.reportsAt place ((deliver view feed tracked report next).2.filterMap delivery?) =
      if next = place then [report] else [] := by
  simp only [deliver, List.getElem?_eq_getElem hnext, List.filterMap_append, List.filterMap_cons,
    filterMap_delivery?_logged, filterMap_delivery?_measured, delivery?]
  by_cases h : next = place
  · simp [Sink.deliver, Delivery.reportsAt, h]
  · simp [Sink.deliver, Delivery.reportsAt, h]

lemma dueAt_deliver (feed : Feed) (tracked : Tracked) (report : Report) {next : Nat}
    (hnext : next < view.setup.sinks.length) (hplace : place < view.setup.sinks.length) :
    (deliver view feed tracked report next).1.dueAt place =
      if next < place then [report] else [] := by
  simp only [deliver, List.getElem?_eq_getElem hnext]
  split
  next => rfl
  next => rw [if_neg (by omega)]; rfl

/-! ## What one step keeps -/

/-- The sink that is next after a step exists. -/
lemma Step.hasNextSink (h : Step view schedule stage stage' did) :
    stage'.HasNextSink view.setup := by
  rcases h.sort with ⟨feed, tracked, event, queue, -, -, rfl, -⟩ |
    ⟨feed, tracked, report, place, -, rfl, -⟩ | hquiet
  · simp only [Tracker.take]
    split
    · split
      · trivial
      · next hsinks => exact List.length_pos_iff.mpr (by simpa using hsinks)
    · trivial
  · simp only [Tracker.deliver]
    split
    · trivial
    · split
      · next hnext => exact hnext
      · trivial
  · exact TrackerStage.hasNextSink_of_isBlank hquiet.after

/-- What a step hands to a sink and leaves due to it is what was due before, and what the events
that the step takes make. -/
lemma Step.handed_append_due (h : Step view schedule stage stage' did)
    (hnext : stage.HasNextSink view.setup) (hplace : place < view.setup.sinks.length) :
    Delivery.reportsAt place (did.filterMap delivery?) ++ stage'.dueAt place =
      stage.dueAt place ++ (did.filterMap event?).filterMap (Event.report? schedule) := by
  rcases h.sort with ⟨feed, tracked, event, queue, -, rfl, rfl, rfl⟩ |
    ⟨feed, tracked, report, next, rfl, rfl, rfl⟩ | hquiet
  · rw [filterMap_delivery?_take, filterMap_event?_take, dueAt_take _ _ _ hplace]
    rw [List.filterMap_cons, List.filterMap_nil]
    cases event.report? schedule with
    | none => rfl
    | some report => rfl
  · rw [filterMap_event?_deliver, reportsAt_deliver _ _ _ hnext, dueAt_deliver _ _ _ hnext hplace]
    simp only [TrackerStage.dueAt, List.filterMap_nil, List.append_nil]
    -- the sink at `place` has had the report, gets it now, or has yet to wait for it
    rcases Nat.lt_trichotomy next place with hlt | heq | hgt
    · rw [if_neg (by omega), if_pos hlt, if_pos (by omega)]
      rfl
    · rw [if_pos heq, if_neg (by omega), if_pos (by omega)]
      rfl
    · rw [if_neg (by omega), if_neg (by omega), if_neg (by omega)]
      rfl
  · rw [filterMap_delivery?_of_isReport hquiet.report, hquiet.event,
      TrackerStage.dueAt_of_isBlank hquiet.after, TrackerStage.dueAt_eq_nil hquiet.before]
    rfl

/-! ## What a whole life keeps -/

namespace History

variable {t : Tracker}

/-- The sink that is next always exists. -/
lemma hasNextSink (h : History setup t past) : t.stage.HasNextSink setup := by
  induction h with
  | spawned hstage => rw [hstage]; trivial
  | fed f h ih => exact hasNextSink_updateFeed ih f
  | stepped hview lines h hstep ih => exact hview ▸ hstep.hasNextSink

/-- What a sink was handed, followed by what is due to it, is what the events made. -/
theorem handed_append_due (h : History setup t past) (hplace : place < setup.sinks.length) :
    Delivery.reportsAt place (past.filterMap delivery?) ++ t.stage.dueAt place =
      (past.filterMap event?).filterMap (Event.report? t.schedule) := by
  induction h with
  | spawned hstage => rw [hstage]; rfl
  | fed f h ih => rw [dueAt_updateFeed, schedule_updateFeed, ih]
  | @stepped t past did view stage hview lines h hstep ih =>
    have hnext : t.stage.HasNextSink view.setup := hview ▸ h.hasNextSink
    have hkeeps := hstep.handed_append_due hnext (hview ▸ hplace)
    calc Delivery.reportsAt place ((past ++ (did ++ lines.map logged)).filterMap delivery?) ++
          stage.dueAt place
        = Delivery.reportsAt place (past.filterMap delivery?) ++
            (Delivery.reportsAt place (did.filterMap delivery?) ++ stage.dueAt place) := by
          simp only [List.filterMap_append, filterMap_delivery?_logged, List.append_nil,
            Delivery.reportsAt_append, List.append_assoc]
      _ = Delivery.reportsAt place (past.filterMap delivery?) ++ t.stage.dueAt place ++
            (did.filterMap event?).filterMap (Event.report? t.schedule) := by
          rw [hkeeps, List.append_assoc]
      _ = ((past ++ (did ++ lines.map logged)).filterMap event?).filterMap
            (Event.report? t.schedule) := by
          rw [ih]
          simp only [List.filterMap_append, filterMap_event?_logged, List.append_nil]

end History

end Tracker

/-! ## Who hands out reports -/

/-- Upkeep of the roster hands out nothing. -/
lemma Occurrence.delivery?_of_isUpkeep {what : Occurrence} (h : what.isUpkeep = true) :
    what.delivery? = none := by
  cases what <;> first | rfl | cases h

namespace Watcher

variable {view : View} {r : Roster} {cluster : String} {stage : WatcherStage}
  {change : WatcherChange}

/-- A watcher hands no report to a sink. -/
lemma Step.filterMap_delivery?_eq_nil (h : Step view r cluster stage change) :
    change.did.filterMap delivery? = [] := by
  rw [List.filterMap_eq_nil_iff]
  intro what hwhat
  cases hupkeep : what.isUpkeep with
  | true => exact delivery?_of_isUpkeep hupkeep
  | false => cases h.does_of_mem hupkeep hwhat <;> rfl

end Watcher

namespace System

variable {setup : Setup} {s : System}

/-- Every report was handed out by one of the trackers. -/
def DeliveredByTrackers (s : System) : Prop :=
  ∀ entry ∈ s.trace, entry.what.delivery? ≠ none →
    ∃ index < s.roster.trackers.length, entry.task = .tracker index

lemma deliveredByTrackers_withFeeds (h : DeliveredByTrackers s) (F : TaskId → Feed → Feed) :
    DeliveredByTrackers (s.withFeeds F) := by
  intro entry hentry hwhat
  show ∃ index < (s.roster.withFeeds _).trackers.length, _
  rw [Roster.length_withFeeds]
  exact h entry hentry hwhat

lemma deliveredByTrackers_apply (h : DeliveredByTrackers s) (input : Input) :
    DeliveredByTrackers (s.apply input) := by
  cases input with
  | start role =>
    cases role with
    | tracker schedule =>
      intro entry hentry hwhat
      obtain ⟨index, hindex, htask⟩ := h entry hentry hwhat
      refine ⟨index, ?_, htask⟩
      show index < (s.roster.trackers ++ [_]).length
      rw [List.length_append]
      omega
    | watcher cluster => exact h
  | event => exact deliveredByTrackers_withFeeds h _
  | close => exact deliveredByTrackers_withFeeds h _
  | arrive => exact deliveredByTrackers_withFeeds h _
  | items => exact h
  | fault => exact h
  | hold => exact h
  | holdSinks => exact h
  | cancel => exact h

lemma deliveredByTrackers_step (h : DeliveredByTrackers s) {task : TaskId} {next : System}
    (hstep : s.step setup task = some next) : DeliveredByTrackers next := by
  intro entry hentry hwhat
  cases task with
  | watcher index =>
    obtain ⟨w, change, -, hchange, rfl⟩ := step_watcher_eq_some hstep
    have hchange := Watcher.step_cases hchange
    obtain ⟨fresh, htrackers, -⟩ := hchange.extends_roster
    rcases List.mem_append.mp hentry with hentry | hentry
    · obtain ⟨other, hother, htask⟩ := h entry hentry hwhat
      refine ⟨other, ?_, htask⟩
      rw [htrackers, List.length_append]
      omega
    · obtain ⟨what, hmem, rfl⟩ := List.mem_map.mp hentry
      exact absurd (List.filterMap_eq_nil_iff.mp hchange.filterMap_delivery?_eq_nil what hmem) hwhat
  | tracker index =>
    obtain ⟨t, stage, did, ht, -, rfl⟩ := step_tracker_eq_some hstep
    simp only [Roster.trackers_setStage, List.length_modify]
    rcases List.mem_append.mp hentry with hentry | hentry
    · exact h entry hentry hwhat
    · obtain ⟨what, -, rfl⟩ := List.mem_map.mp hentry
      exact ⟨index, (List.getElem?_eq_some_iff.mp ht).1, rfl⟩

lemma Reachable.deliveredByTrackers (h : Reachable setup s) : DeliveredByTrackers s :=
  h.induct (fun _ h => absurd h List.not_mem_nil)
    (fun _ input h => deliveredByTrackers_apply h input)
    (fun _ _ _ h hstep => deliveredByTrackers_step h hstep)

/-- If there is just one tracker, then what the sinks were handed is what it handed them. -/
lemma Reachable.deliveries_of_alone (h : Reachable setup s) {t : Tracker}
    (halone : s.roster.trackers = [t]) :
    s.trace.deliveries = (s.trace.ofTask (.tracker 0)).filterMap delivery? := by
  show s.trace.filterMap (fun e => e.what.delivery?) = _
  unfold Trace.ofTask
  rw [List.filterMap_map, List.filterMap_filter]
  -- an entry that hands out nothing is on neither side, whoever it is of
  refine List.filterMap_congr fun entry hentry => ?_
  by_cases hwhat : entry.what.delivery? = none
  · simp [hwhat]
  · obtain ⟨index, hindex, htask⟩ := h.deliveredByTrackers entry hentry hwhat
    rw [halone] at hindex
    obtain rfl : index = 0 := by simpa using hindex
    simp [htask]

/-- The reports that a sink is handed by a tracker are, in order, those that the events it takes
make one by one; a report that is being handed out is still due to the sinks further on. Which
report an event makes is told by its own fields, and a tracker that runs alone is the only one to
hand out reports. -/
theorem handed_reports_eq_filterMap (h : Reachable setup s) {index : Nat} {t : Tracker}
    (ht : s.roster.trackers[index]? = some t) {place : Nat} (hplace : place < setup.sinks.length) :
    Delivery.reportsAt place ((s.trace.ofTask (.tracker index)).filterMap delivery?) ++
        t.stage.dueAt place =
      ((s.trace.ofTask (.tracker index)).filterMap event?).filterMap (Event.report? t.schedule) ∧
    (∀ event report, Event.report? t.schedule event = some report ↔
      event.Contributes t.schedule report) ∧
    (s.roster.trackers = [t] → Delivery.reportsAt place s.trace.deliveries =
      Delivery.reportsAt place ((s.trace.ofTask (.tracker index)).filterMap delivery?)) := by
  refine ⟨(h.history ht).handed_append_due hplace, fun _ _ => Event.report?_eq_some_iff, ?_⟩
  intro halone
  have hindex : index < s.roster.trackers.length := (List.getElem?_eq_some_iff.mp ht).1
  rw [halone] at hindex
  obtain rfl : index = 0 := by simpa using hindex
  rw [h.deliveries_of_alone halone]

end System

namespace Sample

/-- The failure of a backup was handed to the first sink and is due to the second. -/
def halfway : List Move :=
  opening ++ news .added (running "b1") :: steps 1 ++ news .modified (failed "b1") :: steps 2

end Sample

/-- Halfway between two sinks, of which the first refuses, each of them gets the one report that
the two events make. -/
theorem System.handed_reports_eq_filterMap_halfway :
    ∃ t, Reachable Sample.setup (Sample.systemAfter Sample.halfway) ∧
      (Sample.systemAfter Sample.halfway).roster.trackers = [t] ∧
      ∀ place < 2, Delivery.reportsAt place (Sample.systemAfter Sample.halfway).trace.deliveries ++
        t.stage.dueAt place = [.failure "backup failed: disk full"] := by
  have h : Reachable Sample.setup (Sample.systemAfter Sample.halfway) := ⟨Sample.halfway, rfl⟩
  obtain ⟨t, ht⟩ : ∃ t, (Sample.systemAfter Sample.halfway).roster.trackers = [t] := ⟨_, rfl⟩
  refine ⟨t, h, ht, fun place hplace => ?_⟩
  have hindex : (Sample.systemAfter Sample.halfway).roster.trackers[0]? = some t := by
    rw [ht]
    rfl
  obtain ⟨hhanded, -, halone⟩ := System.handed_reports_eq_filterMap h hindex hplace
  have hschedule : t.schedule = "nightly" := by
    obtain rfl := List.singleton_inj.mp (ht.symm.trans rfl)
    rfl
  rw [halone ht, hhanded, hschedule]
  rfl

end BackupMonitor
