import BackupMonitor.Proofs.CallBounds
import BackupMonitor.Proofs.Orders

/-!
# What a run comes to

What a run of a watcher comes to is told by what the sinks were handed and by the result of the
watcher.

* `Reachable.exists_contribution`: every report that a sink was handed goes back to an event that a
  tracker took, so no tracker reports an unknown state.
* `WatcherRun.result?_eq_some_iff`: the result of the run is the one that the watcher has finished
  with, and then the run is over (`WatcherRun.over_of_finished`).
* `watcherRun_advance`, `leadsTo_advance`: batches of input make runs of a watcher.
-/

namespace BackupMonitor

open Occurrence

/-! ## Reports on an unknown state -/

/-- Whether the report is that the state of the backups cannot be told. -/
def Report.isUnknown : Report → Bool
  | .unknown _ => true
  | _ => false

/-- The report that an event makes says how a backup ended. -/
lemma Event.isUnknown_of_report? {schedule : String} {event : Event} {report : Report}
    (h : event.report? schedule = some report) : report.isUnknown = false := by
  obtain ⟨outcome, -, rfl⟩ := Option.map_eq_some_iff.mp h
  cases outcome <;> rfl

namespace Delivery

lemma mem_reportsAt {place : Nat} {report : Report} {ds : List Delivery} :
    report ∈ reportsAt place ds ↔ ∃ d ∈ ds, d.place = place ∧ d.report = report := by
  simp [reportsAt, and_assoc]

end Delivery

section FanOut

variable {sinks : List Sink} {earlier : List Delivery} {report : Report} {place : Nat}

/-- A fan-out hands out the one report. -/
lemma report_of_mem_fanOutFrom {first : Nat} {d : Delivery}
    (h : d ∈ fanOutFrom first earlier report sinks) : d.report = report := by
  induction sinks generalizing first with
  | nil => cases h
  | cons sink sinks ih =>
    rcases List.mem_cons.mp h with rfl | h
    · rfl
    · exact ih h

/-- A fan-out hands the report to each sink once. -/
lemma reportsAt_fanOutFrom (sinks : List Sink) (first place : Nat) :
    Delivery.reportsAt place (fanOutFrom first earlier report sinks) =
      if first ≤ place ∧ place < first + sinks.length then [report] else [] := by
  induction sinks generalizing first with
  | nil => rw [if_neg (by simp only [List.length_nil]; omega)]; rfl
  | cons sink sinks ih =>
    have hfirst : Delivery.reportsAt place [sink.deliver first earlier report] =
        if first = place then [report] else [] := by
      by_cases h : first = place <;> simp [Sink.deliver, Delivery.reportsAt, h]
    rw [fanOutFrom, ← List.singleton_append, Delivery.reportsAt_append, hfirst, ih,
      List.length_cons]
    -- it is handed to the first sink, to one of the others, or to none
    rcases Nat.lt_trichotomy first place with hlt | heq | hgt
    · rw [if_neg (by omega), List.nil_append]
      exact if_congr (by omega) rfl rfl
    · rw [if_pos heq, if_neg (by omega), if_pos (by omega), List.append_nil]
    · rw [if_neg (by omega), if_neg (by omega), if_neg (by omega), List.append_nil]

lemma reportsAt_fanOut (hplace : place < sinks.length) :
    Delivery.reportsAt place (fanOut sinks earlier report) = [report] := by
  unfold fanOut
  rw [reportsAt_fanOutFrom, if_pos (by omega)]

end FanOut

/-! ## What the watcher came to -/

/-- The result of a task that has finished. -/
def CallPhase.result? : CallPhase → Option (Option TaskError)
  | finished error => some error
  | _ => none

/-- The result that a task finishes with. -/
def Occurrence.result? : Occurrence → Option (Option TaskError)
  | finished error => some error
  | _ => none

lemma CallPhase.result?_eq_some_iff {phase : CallPhase} {error : Option TaskError} :
    phase.result? = some error ↔ phase = .finished error := by
  cases phase <;> simp [result?]

/-- What is said and heard until a task has finished holds its result once. -/
lemma Dialogue.filterMap_result? {space : String} {kind : ResourceKind} {phase : CallPhase}
    {said : List Occurrence} (h : Dialogue space kind phase said) :
    said.filterMap Occurrence.result? = phase.result?.toList := by
  -- only the last thing that is said has a result, and no phase before it has one
  induction h with
  | begin => rfl
  | @breakOff said phase hopen h ih =>
    rw [ih]
    cases phase <;> first | rfl | cases hopen
  | finish h ih => rw [List.filterMap_append, ih]; rfl
  | _ => rw [List.filterMap_append, ‹List.filterMap _ _ = _›]; rfl

lemma Occurrence.filterMap_result?_exchange (did : List Occurrence) :
    (exchange did).filterMap Occurrence.result? = did.filterMap Occurrence.result? := by
  unfold exchange
  rw [List.filterMap_filter]
  refine List.filterMap_congr fun what _ => ?_
  cases what <;> rfl

namespace System

variable {setup : Setup} {cluster : String} {s t : System}

/-- The result of a run of a watcher is the one that the watcher has finished with. -/
lemma WatcherRun.result?_eq_some_iff (h : WatcherRun setup cluster s)
    {error : Option TaskError} :
    s.result? = some error ↔ s.phase? (.watcher 0) = some (.finished error) := by
  obtain ⟨w, hw, -⟩ := h.exists_watcher
  have hphase : s.phase? (.watcher 0) = some w.stage.phase := by simp [phase?, hw]
  -- of all that the watcher did, what was said and heard holds the results
  have hresults : ((s.trace.ofTask (.watcher 0)).map (Entry.mk (.watcher 0))).filterMap
      (Entry.result? false) = w.stage.phase.result?.toList := by
    rw [← (h.reachable.dialogue hphase).filterMap_result?, filterMap_result?_exchange,
      List.filterMap_map]
    refine List.filterMap_congr fun what _ => ?_
    cases what <;> rfl
  rw [result?_eq, h.filterMap_result?, hresults, hphase, Option.some_inj,
    ← CallPhase.result?_eq_some_iff]
  cases w.stage.phase.result? <;> simp

/-- A run of a watcher that has finished is over. -/
lemma WatcherRun.over_of_finished (h : WatcherRun setup cluster s) {error : Option TaskError}
    (hphase : s.phase? (.watcher 0) = some (.finished error)) :
    s.roster.running = 0 ∧ ∀ later, LeadsTo setup s later → later.trace = s.trace := by
  obtain ⟨w, hw, -⟩ := h.exists_watcher
  have hfinished : w.stage = .finished error := by
    have hphase : w.stage.phase = .finished error := by simpa [phase?, hw] using hphase
    cases hstage : w.stage with
    | finished error' =>
      rw [hstage] at hphase
      exact congrArg WatcherStage.finished (CallPhase.finished.inj hphase)
    | draining next count =>
      rw [hstage] at hphase
      cases next <;> cases hphase
    | _ =>
      rw [hstage] at hphase
      cases hphase
  obtain ⟨-, hrunning, hlater⟩ := h.nothing_outlives hw hfinished
  exact ⟨hrunning, fun later hleads => (hlater later hleads).2.2⟩

/-! ## Who reports what -/

lemma mem_filterMap_event? {did : List Occurrence} {event : Event} :
    event ∈ did.filterMap event? ↔ .took event ∈ did := by
  rw [List.mem_filterMap]
  constructor
  · rintro ⟨what, hwhat, hevent⟩
    cases what with
    | took other => exact Option.some.inj hevent ▸ hwhat
    | _ => cases hevent
  · exact fun h => ⟨_, h, rfl⟩

lemma mem_filterMap_delivery? {did : List Occurrence} {d : Delivery} :
    d ∈ did.filterMap delivery? ↔ .delivered d ∈ did := by
  rw [List.mem_filterMap]
  constructor
  · rintro ⟨what, hwhat, hdelivery⟩
    cases what with
    | delivered other => exact Option.some.inj hdelivery ▸ hwhat
    | _ => cases hdelivery
  · exact fun h => ⟨_, h, rfl⟩

/-- A report was handed to a sink by one of the trackers. -/
lemma Reachable.exists_tracker (h : Reachable setup s) {d : Delivery}
    (hd : d ∈ s.trace.deliveries) :
    ∃ index t, s.roster.trackers[index]? = some t ∧
      .delivered d ∈ s.trace.ofTask (.tracker index) := by
  obtain ⟨⟨task, what⟩, hentry, hwhat⟩ := List.mem_filterMap.mp hd
  cases what with
  | delivered other =>
    obtain rfl : other = d := Option.some.inj hwhat
    obtain ⟨index, hindex, rfl⟩ := h.deliveredByTrackers _ hentry (by simp [delivery?])
    exact ⟨index, _, List.getElem?_eq_getElem hindex, mem_ofTask.mpr hentry⟩
  | _ => cases hwhat

/-- Every report that a sink was handed was handed to it by a tracker, and an event that the tracker
took makes it. -/
lemma Reachable.exists_contribution (h : Reachable setup s) {d : Delivery}
    (hd : d ∈ s.trace.deliveries) :
    ∃ index t event, s.roster.trackers[index]? = some t ∧
      .delivered d ∈ s.trace.ofTask (.tracker index) ∧
      .took event ∈ s.trace.ofTask (.tracker index) ∧
      event.report? t.schedule = some d.report := by
  obtain ⟨index, t, ht, hdelivered⟩ := h.exists_tracker hd
  have hreport : d.report ∈ Delivery.reportsAt d.place
      ((s.trace.ofTask (.tracker index)).filterMap delivery?) :=
    Delivery.mem_reportsAt.mpr ⟨d, mem_filterMap_delivery?.mpr hdelivered, rfl, rfl⟩
  -- what a sink has been handed is the beginning of what the events make
  obtain ⟨sink, hsink, -⟩ := h.areAnswered.named d hd
  have hmade := (h.history ht).handed_append_due (List.getElem?_eq_some_iff.mp hsink).1
  have hmem := List.mem_append_left (t.stage.dueAt d.place) hreport
  rw [hmade] at hmem
  obtain ⟨event, hevent, hmakes⟩ := List.mem_filterMap.mp hmem
  exact ⟨index, t, event, ht, hdelivered, mem_filterMap_event?.mp hevent, hmakes⟩

/-- No tracker reports an unknown state. -/
lemma Reachable.isUnknown_eq_false (h : Reachable setup s) {d : Delivery}
    (hd : d ∈ s.trace.deliveries) : d.report.isUnknown = false := by
  obtain ⟨_, _, _, -, -, -, hreport⟩ := h.exists_contribution hd
  exact Event.isUnknown_of_report? hreport

/-! ## Input in batches -/

/-- Taking in a batch that starts no task, and coming to rest, is the rest of a run. -/
lemma leadsTo_advance (setup : Setup) (s : System) {batch : List Input}
    (hroles : batch.filterMap Input.role? = []) : LeadsTo setup s (s.advance setup batch) := by
  have hmoves : (batch.map Move.input).filterMap Move.role? = [] := by
    rw [List.filterMap_map]
    exact hroles
  exact LeadsTo.trans ⟨_, hmoves, play_input_applyAll setup s batch⟩
    (settles_advance setup s batch).leadsTo

/-- The start of a watcher, and coming to rest, is a run of the watcher. -/
lemma watcherRun_advance (setup : Setup) (cluster : String) :
    WatcherRun setup cluster (({} : System).advance setup [.start (.watcher cluster)]) :=
  WatcherRun.leadsTo ⟨[.input (.start (.watcher cluster))], rfl, rfl⟩
    (settles_advance setup {} [.start (.watcher cluster)]).leadsTo

end System

end BackupMonitor
