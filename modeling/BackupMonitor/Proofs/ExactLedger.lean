import BackupMonitor.Proofs.Bookings
import BackupMonitor.Proofs.Convergence
import BackupMonitor.Proofs.FanOut

/-!
# The ledger is exact

Each metric of a run is a number that can be read off the run without looking at what was measured:
the trackers that run, the reports that a sink has recorded, the events that were taken, the ends of
watches that were taken. The gauge is kept tracker by tracker (`Tracker.History.gauge`), the ends
are counted move by move (`System.countP_isEndOf_of_play`), and the rest comes from what the events
are booked as. `System.ledger_is_exact` puts this together.
-/

namespace BackupMonitor

open Occurrence

/-! ## The gauge -/

namespace TrackerStage

/-- Whether the tracker has begun to run. -/
def hasBegun : TrackerStage → Bool
  | spawned => false
  | _ => true

/-- Whether the tracker has stopped running. -/
def hasStopped : TrackerStage → Bool
  | finished _ => true
  | _ => false

lemma hasBegun_of_hasStopped {stage : TrackerStage} (h : stage.hasStopped = true) :
    stage.hasBegun = true := by
  cases stage with
  | spawned => cases h
  | _ => rfl

lemma hasBegun_of_isCancellable {stage : TrackerStage} (h : stage.isCancellable = true) :
    stage.hasBegun = true ∧ stage.hasStopped = false := by
  cases stage with
  | spawned => cases h
  | finished error => cases h
  | _ => exact ⟨rfl, rfl⟩

end TrackerStage

namespace Tracker

variable {setup : Setup} {view : View} {schedule : String} {stage stage' : TrackerStage}
  {did past : List Occurrence} {t : Tracker}

lemma isFinished_eq_hasStopped (t : Tracker) : t.isFinished = t.stage.hasStopped := by
  obtain ⟨schedule, token, stage⟩ := t
  cases stage <;> rfl

/-- A tracker that takes an event has begun to run, and does not stop. -/
lemma hasBegun_take (setup : Setup) (schedule : String) (feed : Feed) (tracked : Tracked)
    (event : Event) : (take setup schedule feed tracked event).1.hasBegun = true ∧
      (take setup schedule feed tracked event).1.hasStopped = false := by
  simp only [take]
  split
  · split <;> exact ⟨rfl, rfl⟩
  · exact ⟨rfl, rfl⟩

/-- A tracker that hands out a report has begun to run, and does not stop. -/
lemma hasBegun_deliver (view : View) (feed : Feed) (tracked : Tracked) (report : Report)
    (place : Nat) : (deliver view feed tracked report place).1.hasBegun = true ∧
      (deliver view feed tracked report place).1.hasStopped = false := by
  simp only [deliver]
  split
  · exact ⟨rfl, rfl⟩
  · dsimp only
    split <;> exact ⟨rfl, rfl⟩

/-- A step is measured as a beginning if the tracker begins by it, and as an end if the tracker
stops by it. -/
lemma Step.gauge (h : Step view schedule stage stage' did) :
    (did.filterMap measurement?).count .trackerStarted + stage.hasBegun.toNat =
        stage'.hasBegun.toNat ∧
      (did.filterMap measurement?).count .trackerStopped + stage.hasStopped.toNat =
        stage'.hasStopped.toNat := by
  cases h with
  | take =>
    obtain ⟨hbegun, hstopped⟩ := hasBegun_take view.setup schedule _ _ _
    rw [filterMap_measurement?_take, hbegun, hstopped,
      List.count_eq_zero_of_not_mem (Event.not_mem_bookings rfl),
      List.count_eq_zero_of_not_mem (Event.not_mem_bookings rfl)]
    exact ⟨rfl, rfl⟩
  | deliver =>
    obtain ⟨hbegun, hstopped⟩ := hasBegun_deliver view _ _ _ _
    obtain ⟨ds, hmeasured, -⟩ := exists_measurements_deliver view schedule _ _ _ _
    have hnone (m : Measurement) (hm : m.isSinkFailure = false) :
        (ds.flatMap Delivery.measurements).count m = 0 := by
      refine List.count_eq_zero_of_not_mem fun hmem => ?_
      obtain ⟨d, -, hd⟩ := List.mem_flatMap.mp hmem
      exact Delivery.not_mem_measurements hm hd
    rw [hmeasured, hbegun, hstopped, hnone _ rfl, hnone _ rfl]
    exact ⟨rfl, rfl⟩
  | cancel _ hstage =>
    obtain ⟨hbegun, hstopped⟩ := TrackerStage.hasBegun_of_isCancellable hstage
    rw [hbegun, hstopped]
    simp [finish, TrackerStage.hasBegun, TrackerStage.hasStopped, measurement?,
      List.filterMap_cons]
  | _ =>
    simp [finish, TrackerStage.hasBegun, TrackerStage.hasStopped, measurement?,
      List.filterMap_cons]

/-- A tracker is measured to have begun once it has begun to run, and to have stopped once it has
stopped, and only then. -/
theorem History.gauge (h : History setup t past) :
    (past.filterMap measurement?).count .trackerStarted = t.stage.hasBegun.toNat ∧
      (past.filterMap measurement?).count .trackerStopped = t.stage.hasStopped.toNat := by
  induction h with
  | spawned hstage =>
    rw [hstage]
    exact ⟨rfl, rfl⟩
  | @fed t past f h ih =>
    refine stage_updateFeed (P := fun stage =>
      (past.filterMap measurement?).count .trackerStarted = stage.hasBegun.toNat ∧
        (past.filterMap measurement?).count .trackerStopped = stage.hasStopped.toNat) f ?_ ?_ ih
    · exact fun _ _ h => h
    · exact fun _ _ _ _ h => h
  | stepped hview lines h hstep ih =>
    obtain ⟨hbegun, hstopped⟩ := hstep.gauge
    simp only [List.filterMap_append, filterMap_measurement?_logged, List.append_nil,
      List.count_append]
    rw [ih.1, ih.2]
    omega

end Tracker

/-- A watcher measures neither. -/
lemma Watcher.History.gauge {setup : Setup} {w : Watcher} {past : List Occurrence}
    (h : History setup w past) {m : Measurement} (hm : m = .trackerStarted ∨ m = .trackerStopped) :
    (past.filterMap measurement?).count m = 0 := by
  rw [h.measurements_eq]
  refine List.count_eq_zero_of_not_mem fun hmem => ?_
  obtain ⟨what, -, hwhat⟩ := List.mem_flatMap.mp hmem
  cases what with
  | delivered d =>
    refine Delivery.not_mem_measurements ?_ hwhat
    rcases hm with rfl | rfl <;> rfl
  | sawEnd kind =>
    obtain rfl := List.mem_singleton.mp hwhat
    simp at hm
  | measured m' => cases m' <;> cases hwhat
  | _ => cases hwhat

namespace System

variable {setup : Setup} {s : System} {task : TaskId}

/-- A measurement that each tracker makes once, when it has got so far, and that no watcher makes is
counted tracker by tracker. -/
lemma Reachable.count_measurements (h : Reachable setup s) {m : Measurement} {q : Tracker → Bool}
    (htracker : ∀ {t past}, Tracker.History setup t past →
      (past.filterMap measurement?).count m = (q t).toNat)
    (hwatcher : ∀ {w past}, Watcher.History setup w past →
      (past.filterMap measurement?).count m = 0) :
    s.trace.measurements.count m = s.roster.trackers.countP q := by
  rw [measurements_eq_did, (h.did_perm.filterMap _).count_eq, List.filterMap_flatMap,
    ← countP_tasks]
  refine countP_flatMap_eq_countP fun task htask => ?_
  rcases h.exists_history htask with ⟨index, w, rfl, hpast⟩ | ⟨index, t, rfl, ht, hpast⟩
  · exact hwatcher hpast
  · refine (htracker hpast).trans ?_
    simp only [trackerOf, ht, Option.any_some]
    cases q t <;> rfl

/-- The gauge says how many trackers have begun to run and have not stopped. -/
theorem Reachable.activeTrackers_eq (h : Reachable setup s) :
    s.trace.ledger.activeTrackers =
      s.roster.trackers.countP (·.stage.hasBegun) - s.roster.trackers.countP (·.isFinished) := by
  unfold Trace.ledger
  rw [Ledger.activeTrackers_ofList,
    h.count_measurements (fun hpast => hpast.gauge.1) fun hpast => hpast.gauge (.inl rfl),
    h.count_measurements (q := (·.isFinished)) (fun hpast => ?_)
      fun hpast => hpast.gauge (.inr rfl)]
  rw [Tracker.isFinished_eq_hasStopped]
  exact hpast.gauge.2

lemma running_add_finished (r : Roster) :
    r.running + r.trackers.countP (·.isFinished) = r.trackers.length := by
  unfold Roster.running
  rw [← List.countP_eq_length_filter, Nat.add_comm, List.length_eq_countP_add_countP (·.isFinished)]
  simp

/-- At rest every tracker has begun to run. -/
lemma hasBegun_of_isAtRest (hrest : s.isAtRest setup = true) {t : Tracker}
    (ht : t ∈ s.roster.trackers) : t.stage.hasBegun = true := by
  obtain ⟨index, hindex⟩ := List.getElem?_of_mem ht
  have hstep := isAtRest_iff.mp hrest (.tracker index)
  cases hstage : t.stage with
  | spawned => simp [step, hindex, Tracker.step, hstage] at hstep
  | _ => rfl

/-- If every tracker has begun to run, the gauge says how many are running. -/
lemma Reachable.activeTrackers_eq_running (h : Reachable setup s)
    (hbegun : ∀ t ∈ s.roster.trackers, t.stage.hasBegun = true) :
    s.trace.ledger.activeTrackers = s.roster.running := by
  have hall : s.roster.trackers.countP (·.stage.hasBegun) = s.roster.trackers.length :=
    List.countP_eq_length.mpr hbegun
  have hsum := running_add_finished s.roster
  rw [h.activeTrackers_eq, hall]
  omega

end System

/-! ## The ends of watches -/

/-- Whether nothing is left to take of the watch of a tracker, which has ended. -/
def TrackerStage.isAtEnd : TrackerStage → Bool
  | .following feed _ => feed.queue.isEmpty && feed.closed
  | _ => false

/-- Whether nothing is left to take of the watch of a watcher, which has ended. -/
def WatcherStage.isAtEnd : WatcherStage → Bool
  | .following feed => feed.queue.isEmpty && feed.closed
  | _ => false

/-- What is logged or measured is no end of a watch. -/
lemma Occurrence.countP_isEndOf_eq_zero {kind : ResourceKind} {did : List Occurrence}
    (h : ∀ what ∈ did, what.isEndOf kind = false) : did.countP (·.isEndOf kind) = 0 :=
  List.countP_eq_zero.mpr fun what hwhat => by rw [h what hwhat]; exact Bool.false_ne_true

lemma Occurrence.isEndOf_of_mem_map {α : Type} {f : α → Occurrence} {kind : ResourceKind}
    (hf : ∀ a, (f a).isEndOf kind = false) {xs : List α} {what : Occurrence}
    (h : what ∈ xs.map f) : what.isEndOf kind = false := by
  obtain ⟨a, -, rfl⟩ := List.mem_map.mp h
  exact hf a

namespace Tracker

variable {view : View} {schedule : String} {stage stage' : TrackerStage} {did : List Occurrence}

/-- A step takes the end of a watch if the tracker has got there and is not cancelled. -/
lemma Step.countP_isEndOf (h : Step view schedule stage stage' did) (kind : ResourceKind) :
    did.countP (·.isEndOf kind) =
      if kind = .backup ∧ stage.isAtEnd = true ∧ view.cancelled = false then 1 else 0 := by
  cases h with
  | take hcancel hqueue =>
    rw [if_neg (by simp [TrackerStage.isAtEnd, hqueue])]
    refine countP_isEndOf_eq_zero fun what hwhat => ?_
    simp only [Tracker.take, List.cons_append, List.mem_cons, List.mem_append] at hwhat
    rcases hwhat with rfl | hwhat | hwhat
    · rfl
    · exact isEndOf_of_mem_map (fun _ => rfl) hwhat
    · exact isEndOf_of_mem_map (fun _ => rfl) hwhat
  | deliver =>
    rw [if_neg (by simp [TrackerStage.isAtEnd])]
    refine countP_isEndOf_eq_zero fun what hwhat => ?_
    simp only [Tracker.deliver] at hwhat
    split at hwhat
    · cases hwhat
    · simp only [List.mem_append, List.mem_cons] at hwhat
      rcases hwhat with (hwhat | rfl | hwhat) | hwhat
      · exact isEndOf_of_mem_map (fun _ => rfl) hwhat
      · rfl
      · exact isEndOf_of_mem_map (fun _ => rfl) hwhat
      · exact isEndOf_of_mem_map (fun _ => rfl) hwhat
  | cancel hcancel => simp [hcancel, Tracker.finish, isEndOf]
  | sawEnd hcancel hqueue hclosed =>
    cases kind <;> simp [hcancel, TrackerStage.isAtEnd, hqueue, hclosed, isEndOf]
  | begin => simp [TrackerStage.isAtEnd, isEndOf]
  | callList => simp [TrackerStage.isAtEnd, isEndOf]
  | listFails => simp [TrackerStage.isAtEnd, Tracker.finish, isEndOf]
  | listed => simp [TrackerStage.isAtEnd, isEndOf]
  | callWatch => simp [TrackerStage.isAtEnd, isEndOf]
  | watchFails => simp [TrackerStage.isAtEnd, Tracker.finish, isEndOf]
  | opened => simp [TrackerStage.isAtEnd, isEndOf]

end Tracker

namespace Watcher

variable {view : View} {r : Roster} {cluster : String} {stage : WatcherStage}
  {change : WatcherChange}

/-- A step takes the end of a watch if the watcher has got there and is not cancelled. -/
lemma Step.countP_isEndOf (h : Step view r cluster stage change) (kind : ResourceKind) :
    change.did.countP (·.isEndOf kind) =
      if kind = .scheduledBackup ∧ stage.isAtEnd = true ∧ view.cancelled = false then 1 else 0 := by
  have hkeeps (did : List Occurrence) {c : Roster.Change} (hkeeps : r.Keeps c) :
      (did ++ c.2).countP (·.isEndOf kind) = did.countP (·.isEndOf kind) := by
    have hzero : c.2.countP (·.isEndOf kind) = 0 := countP_isEndOf_eq_zero fun what hwhat => by
      have hupkeep := hkeeps.upkeep what hwhat
      cases what <;> first | rfl | cases hupkeep
    rw [List.countP_append, hzero, Nat.add_zero]
  cases h with
  | begin => simp [WatcherStage.isAtEnd, isEndOf]
  | relist => simp [WatcherStage.isAtEnd, afterDrain]
  | finish => simp [WatcherStage.isAtEnd, afterDrain, isEndOf]
  | cancel hcancel =>
    rw [if_neg (by simp [hcancel])]
    exact hkeeps [] r.keeps_stopAll
  | callList => simp [WatcherStage.isAtEnd, isEndOf]
  | listFails =>
    rw [if_neg (by simp [WatcherStage.isAtEnd])]
    exact hkeeps [_] r.keeps_stopAll
  | listed =>
    rw [if_neg (by simp [WatcherStage.isAtEnd])]
    exact hkeeps [_] (r.keeps_enlistAll cluster _)
  | callWatch => simp [WatcherStage.isAtEnd, isEndOf]
  | watchFails =>
    rw [if_neg (by simp [WatcherStage.isAtEnd])]
    exact hkeeps [_] r.keeps_stopAll
  | opened => simp [WatcherStage.isAtEnd, isEndOf]
  | take hcancel hqueue =>
    rw [if_neg (by simp [WatcherStage.isAtEnd, hqueue])]
    exact hkeeps [_] (r.keeps_consider cluster _)
  | sawEnd hcancel hqueue hclosed =>
    have hdid := hkeeps [.sawEnd .scheduledBackup,
      .measured (.restart ResourceKind.scheduledBackup.plural)] r.keeps_stopAll
    refine hdid.trans ?_
    cases kind <;> simp [hcancel, WatcherStage.isAtEnd, hqueue, hclosed, isEndOf]

end Watcher

namespace System

variable {setup : Setup} {s next later : System} {task : TaskId}

/-- Whether a task that is not cancelled has taken all of a watch that has ended, so that the next
thing that it does is to take the end. -/
def isAtEnd (s : System) (task : TaskId) : Bool :=
  !s.isCancelled task &&
    match task with
    | .watcher index => s.watchers[index]?.any (·.stage.isAtEnd)
    | .tracker index => s.roster.trackers[index]?.any (·.stage.isAtEnd)

/-- Whether a move is that a task takes the end of a watch of a kind. -/
def takesEnd (s : System) (kind : ResourceKind) : Move → Bool
  | .input _ => false
  | .step task => task.kind == kind && s.isAtEnd task

/-- How often a task that was not cancelled took the end of a watch of a kind, in the course of a
list of moves. -/
def endsTaken (setup : Setup) (kind : ResourceKind) : System → List Move → Nat
  | _, [] => 0
  | s, move :: moves =>
    match s.move setup move with
    | some next => (if s.takesEnd kind move then 1 else 0) + endsTaken setup kind next moves
    | none => 0

lemma countP_isEndOf_of_move {move : Move} (h : s.move setup move = some next)
    (kind : ResourceKind) : next.did.countP (·.isEndOf kind) =
      s.did.countP (·.isEndOf kind) + if s.takesEnd kind move then 1 else 0 := by
  cases move with
  | input input =>
    obtain rfl := Option.some.inj h
    rw [did_apply]
    rfl
  | step task =>
    replace h : s.step setup task = some next := h
    cases task with
    | watcher index =>
      obtain ⟨w, change, hw, hchange, rfl⟩ := step_watcher_eq_some h
      have hends := (Watcher.step_cases hchange).countP_isEndOf kind
      have hcancelled : (s.view setup Tokens.root).cancelled = s.isCancelled (.watcher index) := rfl
      unfold did
      rw [map_what_append, List.countP_append, hends, hcancelled]
      refine congrArg (s.did.countP (·.isEndOf kind) + ·) (if_congr ?_ rfl rfl)
      simp [takesEnd, isAtEnd, TaskId.kind, hw]
      tauto
    | tracker index =>
      obtain ⟨t, stage, more, ht, hmore, rfl⟩ := step_tracker_eq_some h
      obtain ⟨lines, hlines⟩ := failureLog_eq_logged s more
      have hends := (Tracker.step_cases hmore).countP_isEndOf kind
      have hcancelled : (s.view setup t.token).cancelled = s.isCancelled (.tracker index) :=
        (isCancelled_tracker ht).symm
      have hlogged : (lines.map logged).countP (·.isEndOf kind) = 0 :=
        countP_isEndOf_eq_zero fun _ hwhat => isEndOf_of_mem_map (fun _ => rfl) hwhat
      unfold did
      rw [map_what_append, List.countP_append, hlines, List.countP_append, hends, hlogged,
        hcancelled]
      refine congrArg (s.did.countP (·.isEndOf kind) + ·) (if_congr ?_ rfl rfl)
      simp [takesEnd, isAtEnd, TaskId.kind, ht]
      tauto

/-- The ends that were taken are those that stand in the trace. -/
lemma countP_isEndOf_of_play {moves : List Move} (h : s.play setup moves = some later)
    (kind : ResourceKind) : later.did.countP (·.isEndOf kind) =
      s.did.countP (·.isEndOf kind) + endsTaken setup kind s moves := by
  induction moves generalizing s with
  | nil =>
    obtain rfl := Option.some.inj h
    rfl
  | cons move moves ih =>
    simp only [play] at h
    split at h
    next mid hmid =>
      rw [ih h, countP_isEndOf_of_move hmid, endsTaken, hmid, Nat.add_assoc]
    next => cases h

end System

/-! ## What the sinks have recorded -/

/-- What the report of an outcome is about. -/
lemma Outcome.state_report (outcome : Outcome) : outcome.report.state = outcome.label.label := by
  cases outcome with
  | success duration stoppedAt => rfl
  | failure error => rfl

/-- An event is reported as the end that it says. -/
lemma Event.any_report? (schedule : String) (label : OutcomeLabel) (event : Event) :
    (event.report? schedule).any (·.state == label.label) = event.saysEnd schedule label := by
  unfold report? saysEnd
  rw [Option.any_map]
  congr 1
  funext outcome
  rw [Outcome.state_report, Bool.eq_iff_iff, beq_iff_eq, beq_iff_eq,
    OutcomeLabel.label_inj]

/-- A watcher hands out no report. -/
lemma Watcher.History.filterMap_delivery?_eq_nil {setup : Setup} {w : Watcher}
    {past : List Occurrence} (h : History setup w past) : past.filterMap delivery? = [] := by
  induction h with
  | spawned => rfl
  | fed f h ih => exact ih
  | stepped hview h hstep ih =>
    rw [List.filterMap_append, ih, hstep.filterMap_delivery?_eq_nil, List.nil_append]

namespace System

variable {setup : Setup} {s : System}

/-- When no tracker is handing out a report, each sink has recorded what the handled events make. -/
theorem Reachable.reportsAt_perm (h : Reachable setup s)
    (hcalm : ∀ t ∈ s.roster.trackers, t.stage.isDelivering = false) {place : Nat}
    (hplace : place < setup.sinks.length) :
    (Delivery.reportsAt place s.trace.deliveries).Perm
      (s.handled.filterMap fun handled => handled.2.report? handled.1) := by
  have htasks : ∀ task ∈ s.tasks,
      Delivery.reportsAt place ((s.trace.ofTask task).filterMap delivery?) =
        ((s.trace.ofTask task).filterMap (handled? (s.scheduleOf task))).filterMap
          fun handled => handled.2.report? handled.1 := by
    intro task htask
    rcases h.exists_history htask with ⟨index, w, rfl, hpast⟩ | ⟨index, t, rfl, ht, hpast⟩
    · rw [hpast.filterMap_delivery?_eq_nil]
      show _ = ((s.trace.ofTask (.watcher index)).filterMap (handled? none)).filterMap _
      rw [filterMap_handled?_none]
      rfl
    · have hmade := recorded_append_due h ht hplace
      rw [TrackerStage.dueAt_of_not_isDelivering (hcalm _ (List.mem_of_getElem? ht)),
        List.append_nil] at hmade
      rw [scheduleOf_tracker ht, filterMap_handled?_some, List.filterMap_map]
      exact hmade
  have hperm := ((h.did_perm.filterMap delivery?).filter (·.place == place)).map (·.report)
  rw [← deliveries_eq_did, List.filterMap_flatMap, List.filter_flatMap, List.map_flatMap] at hperm
  unfold handled
  rw [List.filterMap_flatMap, ← List.flatMap_congr htasks]
  exact hperm

/-- When no tracker is handing out a report, each sink has recorded a report of an end for each
handled event that says it. -/
lemma Reachable.countP_reportsAt (h : Reachable setup s)
    (hcalm : ∀ t ∈ s.roster.trackers, t.stage.isDelivering = false) {place : Nat}
    (hplace : place < setup.sinks.length) (label : OutcomeLabel) :
    (Delivery.reportsAt place s.trace.deliveries).countP (·.state == label.label) =
      s.handled.countP fun handled => handled.2.saysEnd handled.1 label := by
  rw [(h.reportsAt_perm hcalm hplace).countP_eq, List.countP_filterMap]
  refine List.countP_congr fun handled _ => ?_
  rw [← Event.any_report?]
  cases handled.2.report? handled.1 <;> simp

/-! ## All metrics -/

/-- In every run the metrics are an exact account of what was done. At rest the gauge is the number
of trackers that run, and it is zero once all of them have finished. Whenever no tracker is inside a
call to a sink, each sink has recorded as many successes and failures as are counted, which is how
many of the handled events say so. There is a sample for each handled event that says that a backup
completed and did not stop before it started, a malformed event is counted for each handled event of
a backup of the schedule that cannot be observed, and a restart for each end of a watch that a task
takes before it is cancelled. -/
theorem ledger_is_exact {moves : List Move} (hplay : ({} : System).play setup moves = some s) :
    (s.isAtRest setup = true → s.trace.ledger.activeTrackers = s.roster.running) ∧
    (s.roster.isDrained = true → s.trace.ledger.activeTrackers = 0) ∧
    (∀ label, s.trace.ledger.count (Ledger.reports label) =
        s.handled.countP fun handled => handled.2.saysEnd handled.1 label) ∧
    ((∀ t ∈ s.roster.trackers, t.stage.isDelivering = false) →
      ∀ place < setup.sinks.length, ∀ label,
        (Delivery.reportsAt place s.trace.deliveries).countP (·.state == label.label) =
          s.trace.ledger.count (Ledger.reports label)) ∧
    s.trace.ledger.durations.count =
      s.handled.countP (fun handled => handled.2.saysTime handled.1) ∧
    s.trace.ledger.count Ledger.malformedEvents =
      s.handled.countP (fun handled => handled.2.isMalformed handled.1) ∧
    (∀ schedule (tracked : Tracked) (event : Event), event.isMalformed schedule = true ↔
      event.Concerns schedule ∧ ∃ e, (tracked.observe event.object).result = .error e) ∧
    ∀ kind, s.trace.ledger.count (Ledger.restarts kind.plural) = endsTaken setup kind {} moves := by
  have h : Reachable setup s := ⟨moves, hplay⟩
  have hreports (label : OutcomeLabel) : s.trace.ledger.count (Ledger.reports label) =
      s.handled.countP fun handled => handled.2.saysEnd handled.1 label := by
    refine (Ledger.count_eq_count (m := .report label) rfl _).trans (h.countP_measurements ?_ ?_)
    · intro m hm
      rw [beq_iff_eq.mp hm]
      rfl
    · exact fun handled => Event.count_report_bookings label
  refine ⟨fun hrest => ?_, fun hdrained => ?_, hreports, fun hcalm place hplace label => ?_, ?_, ?_,
    fun schedule tracked event => ?_, fun kind => ?_⟩
  · exact h.activeTrackers_eq_running fun t ht => hasBegun_of_isAtRest hrest ht
  · have hfinished := Roster.isDrained_iff.mp hdrained
    rw [h.activeTrackers_eq_running fun t ht => ?_, Roster.running_eq_zero_iff.mpr hdrained]
    · rfl
    · have hstopped := hfinished t ht
      rw [Tracker.isFinished_eq_hasStopped] at hstopped
      exact TrackerStage.hasBegun_of_hasStopped hstopped
  · rw [hreports, h.countP_reportsAt hcalm hplace]
  · refine (Ledger.count_durations_ofList _).trans (h.countP_measurements ?_ ?_)
    · intro m hm
      cases m with
      | duration seconds => rfl
      | _ => cases hm
    · exact fun handled => Event.countP_isDuration_bookings
  · refine (Ledger.count_eq_count (m := .malformed) rfl _).trans (h.countP_measurements ?_ ?_)
    · intro m hm
      rw [beq_iff_eq.mp hm]
      rfl
    · exact fun handled => Event.count_malformed_bookings
  · rw [Event.isMalformed_iff]
    refine and_congr_right fun hevent => ?_
    obtain ⟨name, hname⟩ := hevent.name
    rw [Tracked.observe_result tracked hname]
  · have hends := countP_isEndOf_of_play hplay kind
    refine (Ledger.count_eq_count rfl _).trans ((h.count_restart kind).trans ?_)
    rw [hends]
    exact Nat.zero_add _

end System

namespace Sample

/-- A backup that completed, and stopped that long past noon, as it started at five past. -/
def completed (name past : String) : Object :=
  backup name [("phase", .string "completed"), ("startedAt", .string "2024-05-01T12:05:00Z"),
    ("stoppedAt", .string ("2024-05-01T12:" ++ past ++ ":00Z"))]

/-- A backup of which the phase is no text. -/
def garbled (name : String) : Object :=
  backup name [("phase", .bool true)]

/-- The tracker of a watcher takes a failure, a completion, one that stopped before it started, and
a backup that cannot be read, and starts over as its watch ends. Then the watch of the schedules
ends, so the tracker finishes and another one is started. -/
def wholeDay : List Move :=
  nightly ++ news .added (failed "b1") :: steps 3 ++ news .added (completed "b2" "09") :: steps 3 ++
    news .added (completed "b3" "01") :: steps 3 ++ news .added (garbled "b4") :: steps 1 ++
    .input (.close .backup) :: steps 5 ++
    [.input (.close .scheduledBackup), .step (.watcher 0)] ++ steps 1 ++
    List.replicate 5 (.step (.watcher 0)) ++ List.replicate 5 (.step (.tracker 1))

end Sample

/-- After that day one of two trackers runs, and there are two completions of which one is a sample,
one failure, one malformed event and one restart of either kind. -/
theorem System.ledger_is_exact_wholeDay :
    ({} : System).play Sample.setup Sample.wholeDay = some (Sample.systemAfter Sample.wholeDay) ∧
      (Sample.systemAfter Sample.wholeDay).isAtRest Sample.setup = true ∧
      (Sample.systemAfter Sample.wholeDay).roster.trackers.length = 2 ∧
      (Sample.systemAfter Sample.wholeDay).trace.ledger.activeTrackers = 1 ∧
      (∀ place < 2,
        (Delivery.reportsAt place (Sample.systemAfter Sample.wholeDay).trace.deliveries).countP
          (·.state == "success") = 2) ∧
      (Sample.systemAfter Sample.wholeDay).trace.ledger.count (Ledger.reports .failure) = 1 ∧
      (Sample.systemAfter Sample.wholeDay).trace.ledger.durations.count = 1 ∧
      (Sample.systemAfter Sample.wholeDay).trace.ledger.count Ledger.malformedEvents = 1 ∧
      (Sample.systemAfter Sample.wholeDay).trace.ledger.count (Ledger.restarts "backups") = 1 ∧
      (Sample.systemAfter Sample.wholeDay).trace.ledger.count
        (Ledger.restarts "scheduledbackups") = 1 := by
  have hplay : ({} : System).play Sample.setup Sample.wholeDay =
      some (Sample.systemAfter Sample.wholeDay) := rfl
  have hrest : (Sample.systemAfter Sample.wholeDay).isAtRest Sample.setup = true := rfl
  have hcalm : ∀ t ∈ (Sample.systemAfter Sample.wholeDay).roster.trackers,
      t.stage.isDelivering = false := by
    have hall : (Sample.systemAfter Sample.wholeDay).roster.trackers.all
        (!·.stage.isDelivering) = true := rfl
    intro t ht
    have hnot := List.all_eq_true.mp hall t ht
    rwa [Bool.not_eq_true'] at hnot
  obtain ⟨hgauge, -, hcount, hsinks, hsamples, hmalformed, -, hrestarts⟩ :=
    System.ledger_is_exact hplay
  refine ⟨hplay, hrest, rfl, hgauge hrest, fun place hplace => ?_, hcount .failure, hsamples,
    hmalformed, hrestarts .backup, hrestarts .scheduledBackup⟩
  exact (hsinks hcalm place hplace .success).trans (hcount .success)

end BackupMonitor
