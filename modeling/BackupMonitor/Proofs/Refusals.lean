import BackupMonitor.Proofs.Counters
import BackupMonitor.Proofs.Reports
import BackupMonitor.Proofs.TrackerMove

/-!
# Refusals are counted

A task measures a refusal where it hands out the report that is refused, and nowhere else
(`Occurrence.CountsRefusals`). So in every run the counter of the refusals under a name is the
number of reports that sinks of that name refused.
-/

namespace BackupMonitor

namespace Delivery

/-- Whether a sink of that name refused the report. -/
def isRefusalBy (sink : String) (d : Delivery) : Bool :=
  d.sink == sink && d.error.isSome

/-- What is measured about a report is a refusal. -/
lemma filter_measurements (d : Delivery) :
    d.measurements.filter (·.isSinkFailure) = d.measurements := by
  unfold measurements
  cases d.error with
  | none => rfl
  | some e => rfl

/-- A report is counted once if a sink of that name refused it. -/
lemma countP_measurements (sink : String) (d : Delivery) :
    d.measurements.countP (decide <| · = .sinkFailure sink) =
      if d.isRefusalBy sink then 1 else 0 := by
  unfold measurements isRefusalBy
  cases d.error with
  | none => simp
  | some e => simp [List.countP_cons]

/-- Of what is measured about reports, the refusals are those of the sinks. -/
lemma countP_flatMap_measurements (sink : String) (ds : List Delivery) :
    (ds.flatMap measurements).countP (decide <| · = .sinkFailure sink) =
      ds.countP (·.isRefusalBy sink) := by
  induction ds with
  | nil => rfl
  | cons d ds ih =>
    rw [List.flatMap_cons, List.countP_append, ih, countP_measurements, List.countP_cons,
      Nat.add_comm]

end Delivery

namespace Occurrence

/-- What was measured. -/
def measurement? : Occurrence → Option Measurement
  | measured m => some m
  | _ => none

/-- Whether this is about the answer of a sink: a report is handed out, or its refusal measured. -/
def isAnswer : Occurrence → Bool
  | delivered _ => true
  | measured (.sinkFailure _) => true
  | _ => false

/-- The refusals that were measured are those of the reports that were handed out. -/
def CountsRefusals (did : List Occurrence) : Prop :=
  (did.filterMap measurement?).filter (·.isSinkFailure) =
    (did.filterMap delivery?).flatMap Delivery.measurements

lemma CountsRefusals.append {did more : List Occurrence} (h : CountsRefusals did)
    (h' : CountsRefusals more) : CountsRefusals (did ++ more) := by
  unfold CountsRefusals at *
  rw [List.filterMap_append, List.filterMap_append, List.filter_append, List.flatMap_append, h, h']

/-- Where no sink answers, there is nothing to count. -/
lemma countsRefusals_of_isAnswer {did : List Occurrence}
    (h : ∀ what ∈ did, what.isAnswer = false) : CountsRefusals did := by
  have hdelivered : did.filterMap delivery? = [] := by
    rw [List.filterMap_eq_nil_iff]
    intro what hwhat
    have hanswer := h what hwhat
    cases what with
    | delivered d => cases hanswer
    | _ => rfl
  have hmeasured : (did.filterMap measurement?).filter (·.isSinkFailure) = [] := by
    rw [List.filter_eq_nil_iff]
    intro m hm
    obtain ⟨what, hwhat, hm⟩ := List.mem_filterMap.mp hm
    have hanswer := h what hwhat
    cases what with
    | measured m' =>
      obtain rfl := Option.some.inj hm
      cases m' with
      | sinkFailure sink => cases hanswer
      | _ => simp [Measurement.isSinkFailure]
    | _ => cases hm
  unfold CountsRefusals
  rw [hdelivered, hmeasured]
  rfl

lemma isAnswer_of_mem_logged {lines : List Log.Line} {what : Occurrence}
    (h : what ∈ lines.map logged) : what.isAnswer = false := by
  obtain ⟨line, -, rfl⟩ := List.mem_map.mp h
  rfl

/-- Lines in the log are no refusals. -/
lemma countsRefusals_logged (lines : List Log.Line) : CountsRefusals (lines.map logged) :=
  countsRefusals_of_isAnswer fun _ hwhat => isAnswer_of_mem_logged hwhat

@[simp] lemma filterMap_measurement?_logged (lines : List Log.Line) :
    (lines.map logged).filterMap measurement? = [] := filterMap_map_eq_nil (fun _ => rfl) lines

@[simp] lemma filterMap_measurement?_measured (ms : List Measurement) :
    (ms.map measured).filterMap measurement? = ms := by
  rw [List.filterMap_map]
  exact List.filterMap_some

/-- The answer of a sink is counted along with the report that it is handed. -/
lemma countsRefusals_answer (d : Delivery) (lines : List Log.Line) :
    CountsRefusals (delivered d :: lines.map logged ++ d.measurements.map measured) := by
  unfold CountsRefusals
  simp only [List.cons_append, List.filterMap_cons, List.filterMap_append, measurement?, delivery?,
    filterMap_measurement?_logged, filterMap_measurement?_measured, filterMap_delivery?_logged,
    filterMap_delivery?_measured, List.nil_append, List.append_nil, List.flatMap_cons,
    List.flatMap_nil]
  exact d.filter_measurements

end Occurrence

open Occurrence

namespace Tracker

variable {setup : Setup} {view : View} {schedule : String} {stage stage' : TrackerStage}
  {did : List Occurrence}

/-- What is measured about an event is no refusal. -/
lemma isSinkFailure_of_mem_react (tracked : Tracked) (event : Event) {m : Measurement}
    (h : m ∈ (react schedule tracked event).measurements) : m.isSinkFailure = false := by
  have houtcome (outcome : Outcome) (h : m ∈ outcome.measurements) : m.isSinkFailure = false := by
    cases outcome with
    | success duration stopped =>
      rcases List.mem_cons.mp h with rfl | h
      · rfl
      · split at h
        · rw [List.mem_singleton.mp h]
          rfl
        · cases h
    | failure reason =>
      rw [List.mem_singleton.mp h]
      rfl
  unfold react at h
  split at h
  · cases h
  · split at h
    · split at h
      · cases h
      · simp only [reactToState] at h
        split at h
        · rw [List.mem_singleton.mp h]
          rfl
        · cases h
        · exact houtcome _ h
    · cases h

/-- No sink is asked when an event is taken. -/
lemma isAnswer_of_mem_take (feed : Feed) (tracked : Tracked) (event : Event) {what : Occurrence}
    (h : what ∈ (take setup schedule feed tracked event).2) : what.isAnswer = false := by
  simp only [take] at h
  rcases List.mem_append.mp h with h | h
  · rcases List.mem_cons.mp h with rfl | h
    · rfl
    · exact isAnswer_of_mem_logged h
  · obtain ⟨m, hm, rfl⟩ := List.mem_map.mp h
    have hm := isSinkFailure_of_mem_react tracked event hm
    cases m with
    | sinkFailure sink => cases hm
    | _ => rfl

/-- A sink that refuses is counted once. -/
lemma countsRefusals_deliver (feed : Feed) (tracked : Tracked) (report : Report) (place : Nat) :
    CountsRefusals (deliver view feed tracked report place).2 := by
  simp only [deliver]
  split
  · exact countsRefusals_logged []
  · next sink hsink =>
    rw [List.append_assoc]
    exact (countsRefusals_logged _).append (countsRefusals_answer _ _)

lemma Step.countsRefusals (h : Step view schedule stage stage' did) : CountsRefusals did := by
  cases h with
  | deliver => exact countsRefusals_deliver _ _ _ _
  | take => exact countsRefusals_of_isAnswer fun _ hwhat => isAnswer_of_mem_take _ _ _ hwhat
  | begin => exact countsRefusals_of_isAnswer (by simp [isAnswer])
  | cancel => exact countsRefusals_of_isAnswer (by simp [Tracker.finish, isAnswer])
  | callList => exact countsRefusals_of_isAnswer (by simp [isAnswer])
  | listFails => exact countsRefusals_of_isAnswer (by simp [Tracker.finish, isAnswer])
  | listed => exact countsRefusals_of_isAnswer (by simp [isAnswer])
  | callWatch => exact countsRefusals_of_isAnswer (by simp [isAnswer])
  | watchFails => exact countsRefusals_of_isAnswer (by simp [Tracker.finish, isAnswer])
  | opened => exact countsRefusals_of_isAnswer (by simp [isAnswer])
  | sawEnd => exact countsRefusals_of_isAnswer (by simp [isAnswer])

end Tracker

/-- A watcher asks no sink. -/
lemma Watcher.Step.countsRefusals {view : View} {r : Roster} {cluster : String}
    {stage : WatcherStage} {change : WatcherChange} (h : Step view r cluster stage change) :
    CountsRefusals change.did := by
  refine countsRefusals_of_isAnswer fun what hwhat => ?_
  cases hupkeep : what.isUpkeep with
  | true => cases what <;> first | rfl | cases hupkeep
  | false => cases h.does_of_mem hupkeep hwhat <;> rfl

namespace System

variable {setup : Setup} {s next : System}

/-- What all tasks did so far. -/
def did (s : System) : List Occurrence :=
  s.trace.map (·.what)

lemma did_apply (s : System) (input : Input) : (s.apply input).did = s.did := by
  unfold did
  rw [trace_apply]

/-- What a task does comes after what was done. -/
lemma map_what_append (s : System) (task : TaskId) (more : List Occurrence) :
    (s.trace ++ more.map (Entry.mk task)).map (·.what) = s.did ++ more := by
  unfold did
  rw [List.map_append, List.map_map]
  exact congrArg _ (List.map_id _)

/-- What a step does counts its refusals. -/
lemma exists_did_of_step {task : TaskId} (hstep : s.step setup task = some next) :
    ∃ more, CountsRefusals more ∧ next.did = s.did ++ more := by
  cases task with
  | watcher index =>
    obtain ⟨w, change, -, hchange, rfl⟩ := step_watcher_eq_some hstep
    exact ⟨change.did, (Watcher.step_cases hchange).countsRefusals, map_what_append _ _ _⟩
  | tracker index =>
    obtain ⟨t, stage, more, -, hmore, rfl⟩ := step_tracker_eq_some hstep
    obtain ⟨lines, hlines⟩ := failureLog_eq_logged s more
    refine ⟨more ++ s.failureLog more, ?_, map_what_append _ _ _⟩
    rw [hlines]
    exact (Tracker.step_cases hmore).countsRefusals.append (countsRefusals_logged lines)

/-- Whatever was done counts its refusals. -/
lemma Reachable.countsRefusals (h : Reachable setup s) : CountsRefusals s.did := by
  refine h.induct (P := fun s => CountsRefusals s.did) rfl (fun s input h => ?_) ?_
  · rwa [did_apply]
  · intro s task next h hstep
    obtain ⟨more, hmore, hdid⟩ := exists_did_of_step hstep
    rw [hdid]
    exact h.append hmore

lemma measurements_eq_did (s : System) : s.trace.measurements = s.did.filterMap measurement? := by
  unfold did
  rw [List.filterMap_map]
  rfl

lemma deliveries_eq_did (s : System) : s.trace.deliveries = s.did.filterMap delivery? := by
  unfold did
  rw [List.filterMap_map]
  rfl

/-- The counter of refusals under a name is the number of reports that sinks of that name
refused. -/
theorem Reachable.count_sinkFailures (h : Reachable setup s) (sink : String) :
    s.trace.ledger.count (Ledger.sinkFailures sink) =
      s.trace.deliveries.countP (·.isRefusalBy sink) := by
  have hrefusals : (s.did.filterMap measurement?).countP (decide <| · = .sinkFailure sink) =
      ((s.did.filterMap measurement?).filter (·.isSinkFailure)).countP
        (decide <| · = .sinkFailure sink) := by
    rw [List.countP_filter]
    refine List.countP_congr fun m _ => ?_
    -- what is a refusal by that sink is a refusal
    by_cases hm : m = .sinkFailure sink
    · simp [hm, Measurement.isSinkFailure]
    · simp [hm]
  unfold Trace.ledger
  rw [Ledger.count_sinkFailures, measurements_eq_did, hrefusals, h.countsRefusals,
    Delivery.countP_flatMap_measurements, ← deliveries_eq_did]

end System

end BackupMonitor
