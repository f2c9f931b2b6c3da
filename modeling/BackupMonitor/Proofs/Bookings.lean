import BackupMonitor.Proofs.Dialogue
import BackupMonitor.Proofs.Refusals

/-!
# What tasks are booked for

Whatever a task measures is booked for one thing that it does: an event that it takes, the end of a
watch, the answer of a sink, its beginning and its end. `System.Reachable.measurements_eq` says so
of the whole life of a task, in order. What was done is what each of the tasks did
(`System.Reachable.did_perm`), so every metric is a count of such things over the whole run.
-/

namespace BackupMonitor

open Occurrence

/-! ## What an event is booked as -/

namespace Outcome

/-- How the backup ended, as it is counted. -/
def label : Outcome → OutcomeLabel
  | success .. => .success
  | failure _ => .failure

/-- Whether the outcome has a duration that can be a sample. -/
def isTimed : Outcome → Bool
  | success duration _ => decide (0 ≤ duration.nanos)
  | failure _ => false

end Outcome

namespace Event

variable {schedule : String} {event : Event}

/-- Whether the event is about a backup of the schedule of which the state cannot be read. -/
def isMalformed (schedule : String) (event : Event) : Bool :=
  event.change != .deleted && event.object.name.isSome &&
    event.object.isOwnedBySchedule schedule && !(Outcome.ofBackup event.object).isOk

/-- Whether the event says of a backup of the schedule that it ended in that way. -/
def saysEnd (schedule : String) (label : OutcomeLabel) (event : Event) : Bool :=
  (event.outcome? schedule).any (·.label == label)

/-- Whether the event says of a backup of the schedule that it completed, and did not stop before
it started. -/
def saysTime (schedule : String) (event : Event) : Bool :=
  (event.outcome? schedule).any (·.isTimed)

/-- What is measured about an event that the tracker of a schedule takes. -/
def bookings (schedule : String) (event : Event) : List Measurement :=
  match event.outcome? schedule with
  | some outcome => outcome.measurements
  | none => if event.isMalformed schedule then [.malformed] else []

/-- An event is malformed if it concerns the schedule and its backup cannot be read. -/
lemma isMalformed_iff : event.isMalformed schedule = true ↔
    event.Concerns schedule ∧ ∃ e, Outcome.ofBackup event.object = .error e := by
  have hchange : (event.change != .deleted) = true ↔
      event.change = .added ∨ event.change = .modified := by
    cases event.change <;> decide
  have hread : (!(Outcome.ofBackup event.object).isOk) = true ↔
      ∃ e, Outcome.ofBackup event.object = .error e := by
    cases Outcome.ofBackup event.object <;> simp [Except.isOk, Except.toBool]
  rw [isMalformed, Bool.and_eq_true, Bool.and_eq_true, Bool.and_eq_true, hchange, hread,
    Option.isSome_iff_exists, concerns_iff, and_assoc, and_assoc, and_assoc, and_assoc]

/-- An event that says an outcome is not malformed. -/
lemma isMalformed_of_outcome {outcome : Outcome} (h : event.outcome? schedule = some outcome) :
    event.isMalformed schedule = false := by
  rw [Bool.eq_false_iff]
  intro hmalformed
  obtain ⟨-, e, he⟩ := isMalformed_iff.mp hmalformed
  rw [(outcome?_eq_some_iff.mp h).2] at he
  cases he

/-- An event gives a sample if the backup completed and both of its times can be read, the later one
last. -/
lemma saysTime_iff : event.saysTime schedule = true ↔
    event.Concerns schedule ∧
      event.object.content.at? ["status", "phase"] = some (.string "completed") ∧
      ∃ startedAt stoppedAt,
        Outcome.timestampAt event.object ["status", "startedAt"] = .ok startedAt ∧
        Outcome.timestampAt event.object ["status", "stoppedAt"] = .ok stoppedAt ∧
        0 ≤ (stoppedAt.since startedAt).nanos := by
  unfold saysTime
  rw [Option.any_eq_true]
  simp only [outcome?_eq_some_iff]
  constructor
  · rintro ⟨outcome, ⟨hevent, hstate⟩, htimed⟩
    cases outcome with
    | success duration stoppedAt =>
      obtain ⟨hphase, startedAt, hstarted, hstopped, rfl⟩ :=
        Outcome.ofBackup_eq_success_iff.mp hstate
      exact ⟨hevent, hphase, startedAt, stoppedAt, hstarted, hstopped, of_decide_eq_true htimed⟩
    | failure error => cases htimed
  · rintro ⟨hevent, hphase, startedAt, stoppedAt, hstarted, hstopped, htimed⟩
    have hstate := Outcome.ofBackup_eq_success_iff.mpr ⟨hphase, startedAt, hstarted, hstopped, rfl⟩
    exact ⟨_, ⟨hevent, hstate⟩, decide_eq_true htimed⟩

/-! Each event is counted once at most, under the counter for what it says. -/

lemma count_report_bookings (label : OutcomeLabel) :
    (event.bookings schedule).count (.report label) =
      if event.saysEnd schedule label then 1 else 0 := by
  unfold bookings saysEnd
  cases event.outcome? schedule with
  | none => cases event.isMalformed schedule <;> simp
  | some outcome =>
    cases outcome with
    | success duration stoppedAt =>
      by_cases htimed : 0 ≤ duration.nanos <;> cases label <;>
        simp [Outcome.measurements, Outcome.label, htimed]
    | failure error => cases label <;> simp [Outcome.measurements, Outcome.label]

lemma countP_isDuration_bookings :
    (event.bookings schedule).countP (·.isDuration) =
      if event.saysTime schedule then 1 else 0 := by
  unfold bookings saysTime
  cases event.outcome? schedule with
  | none => cases event.isMalformed schedule <;> simp [Measurement.isDuration]
  | some outcome =>
    cases outcome with
    | success duration stoppedAt =>
      by_cases htimed : 0 ≤ duration.nanos <;>
        simp [Outcome.measurements, Outcome.isTimed, Measurement.isDuration, htimed]
    | failure error => simp [Outcome.measurements, Outcome.isTimed, Measurement.isDuration]

lemma count_malformed_bookings :
    (event.bookings schedule).count .malformed =
      if event.isMalformed schedule then 1 else 0 := by
  unfold bookings
  cases houtcome : event.outcome? schedule with
  | none => cases event.isMalformed schedule <;> simp
  | some outcome =>
    rw [isMalformed_of_outcome houtcome]
    cases outcome with
    | success duration stoppedAt =>
      by_cases htimed : 0 ≤ duration.nanos <;> simp [Outcome.measurements, htimed]
    | failure error => simp [Outcome.measurements]

end Event

/-- Whether this is measured about an event. -/
def Measurement.isAboutEvent : Measurement → Bool
  | report _ => true
  | duration _ => true
  | malformed => true
  | _ => false

/-- Nothing but a refusal is measured about a report that is handed out. -/
lemma Delivery.not_mem_measurements {d : Delivery} {m : Measurement}
    (h : m.isSinkFailure = false) : m ∉ d.measurements := by
  intro hm
  rw [← filter_measurements, List.mem_filter, h] at hm
  cases hm.2

lemma Event.isAboutEvent_of_mem_bookings {schedule : String} {event : Event} {m : Measurement}
    (h : m ∈ event.bookings schedule) : m.isAboutEvent = true := by
  unfold bookings at h
  split at h
  next outcome _ =>
    cases outcome with
    | success duration stoppedAt =>
      rcases List.mem_cons.mp h with rfl | h
      · rfl
      · split at h
        · rw [List.mem_singleton.mp h]
          rfl
        · cases h
    | failure error =>
      rw [List.mem_singleton.mp h]
      rfl
  next =>
    split at h
    · rw [List.mem_singleton.mp h]
      rfl
    · cases h

lemma Event.not_mem_bookings {schedule : String} {event : Event} {m : Measurement}
    (h : m.isAboutEvent = false) : m ∉ event.bookings schedule := by
  intro hm
  rw [isAboutEvent_of_mem_bookings hm] at h
  cases h

/-- A tracker measures what the event is booked as, whatever it tracks. -/
lemma Tracker.react_measurements (schedule : String) (tracked : Tracked) (event : Event) :
    (react schedule tracked event).measurements = event.bookings schedule := by
  obtain ⟨change, object⟩ := event
  unfold Event.bookings Event.outcome? Event.isMalformed
  cases hname : object.name with
  | none => cases change <;> simp [react, hname]
  | some name =>
    by_cases howned : object.isOwnedBySchedule schedule = true
    · have hobserved := Tracked.observe_result tracked hname
      -- what is tracked decides what is logged and tracked next, not what the state says
      cases hread : Outcome.ofBackup object with
      | error e =>
        cases change <;> simp [react, reactToState, hname, howned, hobserved, hread, Except.isOk,
          Except.toBool]
      | ok outcome =>
        cases outcome <;> cases change <;> simp [react, reactToState, hname, howned, hobserved,
          hread, Except.isOk, Except.toBool]
    · cases change <;> simp [react, hname, howned]

/-! ## What a task is booked for -/

namespace Occurrence

/-- What is measured when a task does this: the tracker of a schedule, or a watcher, which has none.
A tracker that begins does nothing else that it could be booked for. -/
def bookings (schedule? : Option String) : Occurrence → List Measurement
  | took event => schedule?.elim [] event.bookings
  | sawEnd kind => [.restart kind.plural]
  | delivered d => d.measurements
  | finished _ => if schedule?.isSome then [.trackerStopped] else []
  | measured .trackerStarted => if schedule?.isSome then [.trackerStarted] else []
  | _ => []

variable {schedule? : Option String}

@[simp] lemma flatMap_bookings_logged (lines : List Log.Line) :
    (lines.map logged).flatMap (bookings schedule?) = [] := by
  rw [List.flatMap_map]
  exact List.flatMap_eq_nil_iff.mpr fun _ _ => rfl

/-- Nothing else that is measured is booked once more. -/
lemma flatMap_bookings_measured {ms : List Measurement} (h : .trackerStarted ∉ ms) :
    (ms.map measured).flatMap (bookings schedule?) = [] := by
  rw [List.flatMap_map, List.flatMap_eq_nil_iff]
  intro m hm
  cases m with
  | trackerStarted => exact absurd hm h
  | _ => rfl

/-- Upkeep of the roster is not booked. -/
lemma measured_of_isUpkeep (schedule? : Option String) {did : List Occurrence}
    (h : ∀ what ∈ did, what.isUpkeep = true) :
    did.filterMap measurement? = did.flatMap (bookings schedule?) := by
  induction did with
  | nil => rfl
  | cons what did ih =>
    have hfirst := h what List.mem_cons_self
    have hrest := ih fun what hwhat => h what (List.mem_cons_of_mem _ hwhat)
    cases what with
    | logged line => exact hrest
    | startedTracker schedule => exact hrest
    | _ => cases hfirst

end Occurrence

namespace Tracker

variable {setup : Setup} {view : View} {schedule : String} {stage stage' : TrackerStage}
  {did past : List Occurrence} {t : Tracker}

lemma filterMap_measurement?_take (feed : Feed) (tracked : Tracked) (event : Event) :
    (take setup schedule feed tracked event).2.filterMap measurement? =
      event.bookings schedule := by
  simp only [take, react_measurements, List.filterMap_append, List.filterMap_cons,
    filterMap_measurement?_logged, filterMap_measurement?_measured, measurement?, List.nil_append]

lemma flatMap_bookings_take (feed : Feed) (tracked : Tracked) (event : Event) :
    (take setup schedule feed tracked event).2.flatMap (bookings (some schedule)) =
      event.bookings schedule := by
  simp only [take, react_measurements, List.flatMap_append, List.flatMap_cons,
    flatMap_bookings_logged, bookings, Option.elim]
  rw [flatMap_bookings_measured (Event.not_mem_bookings rfl), List.append_nil, List.append_nil]

/-- What is measured when a report is handed out is booked for the answer of the sink. -/
lemma exists_measurements_deliver (view : View) (schedule : String) (feed : Feed)
    (tracked : Tracked) (report : Report) (place : Nat) : ∃ ds : List Delivery,
      (deliver view feed tracked report place).2.filterMap measurement? =
        ds.flatMap Delivery.measurements ∧
      (deliver view feed tracked report place).2.flatMap (bookings (some schedule)) =
        ds.flatMap Delivery.measurements := by
  simp only [deliver]
  split
  · exact ⟨[], rfl, rfl⟩
  · next sink hsink =>
    refine ⟨[sink.deliver place view.earlier report], ?_, ?_⟩
    · simp only [List.filterMap_append, List.filterMap_cons, filterMap_measurement?_logged,
        filterMap_measurement?_measured, measurement?, List.flatMap_cons, List.flatMap_nil,
        List.nil_append, List.append_nil]
    · simp only [List.flatMap_append, List.flatMap_cons, List.flatMap_nil,
        flatMap_bookings_logged, bookings, List.nil_append, List.append_nil]
      rw [flatMap_bookings_measured (Delivery.not_mem_measurements rfl), List.append_nil]

/-- What a step measures is what it is booked for. -/
lemma Step.measurements_eq (h : Step view schedule stage stage' did) :
    did.filterMap measurement? = did.flatMap (bookings (some schedule)) := by
  cases h with
  | take => rw [filterMap_measurement?_take, flatMap_bookings_take]
  | deliver =>
    obtain ⟨ds, hmeasured, hbooked⟩ := exists_measurements_deliver view schedule _ _ _ _
    rw [hmeasured, hbooked]
  | begin => rfl
  | cancel => rfl
  | callList => rfl
  | listFails => rfl
  | listed => rfl
  | callWatch => rfl
  | watchFails => rfl
  | opened => rfl
  | sawEnd => rfl

/-- What a tracker measures over its life is what it is booked for, in order. -/
theorem History.measurements_eq (h : History setup t past) :
    past.filterMap measurement? = past.flatMap (bookings (some t.schedule)) := by
  induction h with
  | spawned => rfl
  | fed f h ih => rw [schedule_updateFeed, ih]
  | stepped hview lines h hstep ih =>
    simp only [List.filterMap_append, List.flatMap_append, filterMap_measurement?_logged,
      flatMap_bookings_logged, ih, hstep.measurements_eq]

end Tracker

namespace Watcher

variable {setup : Setup} {view : View} {r : Roster} {cluster : String} {stage : WatcherStage}
  {change : WatcherChange} {past : List Occurrence} {w : Watcher}

/-- What a step measures is what it is booked for. -/
lemma Step.measurements_eq (h : Step view r cluster stage change) :
    change.did.filterMap measurement? = change.did.flatMap (bookings none) := by
  -- what a step does is followed by the upkeep of the roster
  have hkeeps (did : List Occurrence) {c : Roster.Change} (hkeeps : r.Keeps c)
      (h : did.filterMap measurement? = did.flatMap (bookings none)) :
      (did ++ c.2).filterMap measurement? = (did ++ c.2).flatMap (bookings none) := by
    rw [List.filterMap_append, List.flatMap_append, h, measured_of_isUpkeep none hkeeps.upkeep]
  cases h with
  | begin => rfl
  | relist => rfl
  | finish => rfl
  | cancel => exact hkeeps _ r.keeps_stopAll rfl
  | callList => rfl
  | listFails => exact hkeeps _ r.keeps_stopAll rfl
  | listed => exact hkeeps [_] (r.keeps_enlistAll cluster _) rfl
  | callWatch => rfl
  | watchFails => exact hkeeps _ r.keeps_stopAll rfl
  | opened => rfl
  | take => exact hkeeps [_] (r.keeps_consider cluster _) rfl
  | sawEnd => exact hkeeps _ r.keeps_stopAll rfl

/-- What a watcher measures over its life is what it is booked for, in order. -/
theorem History.measurements_eq (h : History setup w past) :
    past.filterMap measurement? = past.flatMap (bookings none) := by
  induction h with
  | spawned => rfl
  | fed f h ih => exact ih
  | stepped hview h hstep ih =>
    rw [List.filterMap_append, List.flatMap_append, ih, hstep.measurements_eq]

end Watcher

/-! ## What all tasks did -/

/-- What was done is what each of the tasks did, if no other task did anything. -/
lemma Trace.perm_flatMap_ofTask {trace : Trace} {tasks : List TaskId} (hnodup : tasks.Nodup)
    (htasks : ∀ entry ∈ trace, entry.task ∈ tasks) :
    (trace.map (·.what)).Perm (tasks.flatMap trace.ofTask) := by
  induction trace with
  | nil =>
    have hnone : tasks.flatMap (ofTask []) = [] := List.flatMap_eq_nil_iff.mpr fun _ _ => rfl
    rw [hnone]
    exact .refl _
  | cons entry trace ih =>
    have hrest := ih fun other hother => htasks other (List.mem_cons_of_mem _ hother)
    -- the entry stands before what its task did, and the other tasks do not see it
    obtain ⟨before, after, rfl⟩ := List.append_of_mem (htasks entry List.mem_cons_self)
    have hsame : ofTask (entry :: trace) entry.task = entry.what :: ofTask trace entry.task := by
      simp [ofTask]
    have hother (task : TaskId) (hne : entry.task ≠ task) :
        ofTask (entry :: trace) task = ofTask trace task := by
      simp [ofTask, hne]
    obtain ⟨-, hafter, hbefore⟩ := List.nodup_append.mp hnodup
    have hxs : before.flatMap (ofTask (entry :: trace)) = before.flatMap (ofTask trace) :=
      List.flatMap_congr fun task htask => hother task
        (hbefore task htask entry.task List.mem_cons_self).symm
    have hys : after.flatMap (ofTask (entry :: trace)) = after.flatMap (ofTask trace) :=
      List.flatMap_congr fun task htask => hother task
        (ne_of_mem_of_not_mem htask (List.nodup_cons.mp hafter).1).symm
    rw [List.flatMap_append, List.flatMap_cons, hxs, hys, hsame, List.map_cons, List.cons_append]
    rw [List.flatMap_append, List.flatMap_cons] at hrest
    exact (hrest.cons entry.what).trans List.perm_middle.symm

namespace System

variable {setup : Setup} {s next : System} {task : TaskId}

lemma nodup_tasks (s : System) : s.tasks.Nodup := by
  unfold tasks
  refine List.nodup_append.mpr ⟨?_, ?_, ?_⟩
  · exact List.nodup_range.map fun _ _ h => TaskId.watcher.inj h
  · exact List.nodup_range.map fun _ _ h => TaskId.tracker.inj h
  · intro a ha b hb
    obtain ⟨index, -, rfl⟩ := List.mem_map.mp ha
    obtain ⟨other, -, rfl⟩ := List.mem_map.mp hb
    simp

/-- What was done was done by the tasks of the system. -/
lemma Reachable.task_mem_tasks (h : Reachable setup s) :
    ∀ entry ∈ s.trace, entry.task ∈ s.tasks := by
  intro entry hentry
  have hdid : s.trace.ofTask entry.task ≠ [] := List.ne_nil_of_mem (mem_ofTask.mpr hentry)
  unfold tasks
  rw [List.mem_append, List.mem_map, List.mem_map]
  cases htask : entry.task with
  | watcher index =>
    rw [htask] at hdid
    refine .inl ⟨index, List.mem_range.mpr ?_, rfl⟩
    by_contra hindex
    exact hdid (h.watchersHaveHistory.2 index (by omega))
  | tracker index =>
    rw [htask] at hdid
    refine .inr ⟨index, List.mem_range.mpr ?_, rfl⟩
    by_contra hindex
    exact hdid (h.ofTask_eq_nil (by omega))

theorem Reachable.did_perm (h : Reachable setup s) :
    s.did.Perm (s.tasks.flatMap s.trace.ofTask) :=
  Trace.perm_flatMap_ofTask s.nodup_tasks h.task_mem_tasks

/-- The tracker that a task is, if it is one. -/
def trackerOf (s : System) : TaskId → Option Tracker
  | .watcher _ => none
  | .tracker index => s.roster.trackers[index]?

/-- The schedule of a tracker; a watcher has none. -/
def scheduleOf (s : System) (task : TaskId) : Option String :=
  (s.trackerOf task).map (·.schedule)

lemma scheduleOf_tracker {index : Nat} {t : Tracker} (ht : s.roster.trackers[index]? = some t) :
    s.scheduleOf (.tracker index) = some t.schedule := by
  show s.roster.trackers[index]?.map (·.schedule) = _
  rw [ht]
  rfl

/-- Trackers are counted task by task. -/
lemma countP_tasks (s : System) (q : Tracker → Bool) :
    s.tasks.countP (fun task => (s.trackerOf task).any q) = s.roster.trackers.countP q := by
  have htrackers : (List.range s.roster.trackers.length).map (s.roster.trackers[·]?) =
      s.roster.trackers.map some := by
    refine List.ext_getElem (by simp) fun index _ _ => ?_
    simp
  have hwatchers : ((List.range s.watchers.length).map TaskId.watcher).countP
      (fun task => (s.trackerOf task).any q) = 0 := by
    rw [List.countP_map]
    exact List.countP_eq_zero.mpr fun _ _ => Bool.false_ne_true
  have hmap : ((List.range s.roster.trackers.length).map TaskId.tracker).countP
      (fun task => (s.trackerOf task).any q) = (s.roster.trackers.map some).countP (·.any q) := by
    rw [← htrackers, List.countP_map, List.countP_map]
    rfl
  unfold tasks
  rw [List.countP_append, hwatchers, hmap, List.countP_map, Nat.zero_add]
  rfl

/-- A task is a watcher or a tracker, with the life that made the trace. -/
lemma Reachable.exists_history (h : Reachable setup s) (htask : task ∈ s.tasks) :
    (∃ index w, task = .watcher index ∧ Watcher.History setup w (s.trace.ofTask task)) ∨
      ∃ index t, task = .tracker index ∧ s.roster.trackers[index]? = some t ∧
        Tracker.History setup t (s.trace.ofTask task) := by
  unfold tasks at htask
  rcases List.mem_append.mp htask with htask | htask
  · obtain ⟨index, hindex, rfl⟩ := List.mem_map.mp htask
    have hw := List.getElem?_eq_getElem (List.mem_range.mp hindex)
    exact .inl ⟨index, _, rfl, h.watcherHistory hw⟩
  · obtain ⟨index, hindex, rfl⟩ := List.mem_map.mp htask
    have ht := List.getElem?_eq_getElem (List.mem_range.mp hindex)
    exact .inr ⟨index, _, rfl, ht, h.history ht⟩

/-- What a task measured is what it is booked for, in order. -/
theorem Reachable.measurements_eq (h : Reachable setup s) (htask : task ∈ s.tasks) :
    (s.trace.ofTask task).filterMap measurement? =
      (s.trace.ofTask task).flatMap (bookings (s.scheduleOf task)) := by
  rcases h.exists_history htask with ⟨index, w, rfl, hpast⟩ | ⟨index, t, rfl, ht, hpast⟩
  · exact hpast.measurements_eq
  · rw [scheduleOf_tracker ht]
    exact hpast.measurements_eq

/-- What all tasks measured is what they are booked for. -/
lemma Reachable.measurements_perm (h : Reachable setup s) :
    s.trace.measurements.Perm
      (s.tasks.flatMap fun task =>
        (s.trace.ofTask task).flatMap (bookings (s.scheduleOf task))) := by
  have htasks := List.flatMap_congr fun _ htask => h.measurements_eq htask
  rw [measurements_eq_did, ← htasks, ← List.filterMap_flatMap]
  exact h.did_perm.filterMap _

end System

/-! ## Counting -/

/-- Where each entry is worth one or nothing, the entries that are worth one are counted. -/
lemma countP_flatMap_eq_countP {α β : Type} {f : α → List β} {p : β → Bool} {q : α → Bool}
    {xs : List α} (h : ∀ a ∈ xs, (f a).countP p = if q a then 1 else 0) :
    (xs.flatMap f).countP p = xs.countP q := by
  induction xs with
  | nil => rfl
  | cons a xs ih =>
    rw [List.flatMap_cons, List.countP_append, List.countP_cons, h a List.mem_cons_self,
      ih fun b hb => h b (List.mem_cons_of_mem _ hb), Nat.add_comm]

namespace Occurrence

variable {schedule? : Option String}

/-- The event that the tracker of a schedule takes, with the schedule. -/
def handled? (schedule? : Option String) : Occurrence → Option (String × Event)
  | took event => schedule?.map (·, event)
  | _ => none

/-- Whether this is the end of a watch of a kind. -/
def isEndOf (kind : ResourceKind) : Occurrence → Bool
  | sawEnd other => other == kind
  | called _ => false
  | listed _ _ => false
  | opened _ => false
  | refused _ => false
  | took _ => false
  | startedTracker _ => false
  | logged _ => false
  | measured _ => false
  | delivered _ => false
  | finished _ => false

lemma filterMap_handled?_none (past : List Occurrence) : past.filterMap (handled? none) = [] := by
  rw [List.filterMap_eq_nil_iff]
  intro what _
  cases what <;> rfl

lemma filterMap_handled?_some (schedule : String) (past : List Occurrence) :
    past.filterMap (handled? (some schedule)) = (past.filterMap event?).map (schedule, ·) := by
  rw [List.map_filterMap]
  refine List.filterMap_congr fun what _ => ?_
  cases what <;> rfl

lemma filter_isAboutEvent_measurements (d : Delivery) :
    d.measurements.filter (·.isAboutEvent) = [] := by
  rw [List.filter_eq_nil_iff]
  intro m hm habout
  refine Delivery.not_mem_measurements ?_ hm
  cases m with
  | sinkFailure sink => cases habout
  | _ => rfl

/-- What is booked about events is what the events that were taken are booked as. -/
lemma filter_isAboutEvent_bookings (schedule? : Option String) (past : List Occurrence) :
    (past.flatMap (bookings schedule?)).filter (·.isAboutEvent) =
      (past.filterMap (handled? schedule?)).flatMap
        fun handled => handled.2.bookings handled.1 := by
  induction past with
  | nil => rfl
  | cons what past ih =>
    rw [List.flatMap_cons, List.filter_append, ih, List.filterMap_cons]
    cases what with
    | took event =>
      cases schedule? with
      | none => rfl
      | some schedule =>
        have hall : (event.bookings schedule).filter (·.isAboutEvent) = event.bookings schedule :=
          List.filter_eq_self.mpr fun _ hm => Event.isAboutEvent_of_mem_bookings hm
        simp only [bookings, handled?, Option.elim, Option.map_some, List.flatMap_cons, hall]
    | delivered d => simp only [bookings, handled?, filter_isAboutEvent_measurements,
        List.nil_append]
    | finished error => cases schedule? <;> rfl
    | measured m => cases m <;> cases schedule? <;> rfl
    | _ => rfl

/-- A restart is booked for each end of a watch of the kind. -/
lemma count_restart_bookings (schedule? : Option String) (kind : ResourceKind)
    (past : List Occurrence) :
    (past.flatMap (bookings schedule?)).count (.restart kind.plural) =
      past.countP (·.isEndOf kind) := by
  refine countP_flatMap_eq_countP fun what _ => ?_
  show (bookings schedule? what).count (.restart kind.plural) = _
  cases what with
  | took event =>
    have hnot : .restart kind.plural ∉ (took event).bookings schedule? := by
      intro hmem
      cases schedule? with
      | none => cases hmem
      | some schedule => exact Event.not_mem_bookings rfl hmem
    rw [List.count_eq_zero_of_not_mem hnot]
    rfl
  | sawEnd other =>
    cases other <;> cases kind <;> simp [bookings, ResourceKind.plural, isEndOf]
  | delivered d => exact List.count_eq_zero_of_not_mem (Delivery.not_mem_measurements rfl)
  | finished error => cases schedule? <;> simp [bookings, isEndOf]
  | measured m => cases m <;> cases schedule? <;> simp [bookings, isEndOf]
  | _ => rfl

end Occurrence

namespace System

variable {setup : Setup} {s next : System} {task : TaskId}

/-- Every event that a tracker took, with the schedule of the tracker. -/
def handled (s : System) : List (String × Event) :=
  s.tasks.flatMap fun task => (s.trace.ofTask task).filterMap (handled? (s.scheduleOf task))

/-- What was measured about events is what the handled events are booked as. -/
lemma Reachable.aboutEvent_perm (h : Reachable setup s) :
    (s.trace.measurements.filter (·.isAboutEvent)).Perm
      (s.handled.flatMap fun handled => handled.2.bookings handled.1) := by
  have hperm := h.measurements_perm.filter (·.isAboutEvent)
  rw [List.filter_flatMap] at hperm
  simp only [filter_isAboutEvent_bookings] at hperm
  unfold handled
  rwa [List.flatMap_assoc]

/-- Measurements about events are counted event by event. -/
lemma Reachable.countP_measurements (h : Reachable setup s) {p : Measurement → Bool}
    (hp : ∀ m, p m = true → m.isAboutEvent = true) {q : String × Event → Bool}
    (hq : ∀ handled, (handled.2.bookings handled.1).countP p = if q handled then 1 else 0) :
    s.trace.measurements.countP p = s.handled.countP q := by
  have hfilter : s.trace.measurements.countP p =
      (s.trace.measurements.filter (·.isAboutEvent)).countP p := by
    rw [List.countP_filter]
    refine List.countP_congr fun m _ => ?_
    rw [Bool.and_eq_true]
    exact ⟨fun hm => ⟨hm, hp m hm⟩, And.left⟩
  rw [hfilter, h.aboutEvent_perm.countP_eq]
  exact countP_flatMap_eq_countP fun handled _ => hq handled

/-- Restarts are counted end by end. -/
lemma Reachable.count_restart (h : Reachable setup s) (kind : ResourceKind) :
    s.trace.measurements.count (.restart kind.plural) = s.did.countP (·.isEndOf kind) := by
  rw [h.measurements_perm.count_eq, h.did_perm.countP_eq, List.count_flatMap, List.countP_flatMap]
  refine congrArg List.sum (List.map_congr_left fun task _ => ?_)
  exact count_restart_bookings _ kind _

end System

end BackupMonitor
