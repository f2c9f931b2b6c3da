import BackupMonitor.Metrics
import Mathlib.Tactic.Lemma

/-!
# What a ledger says

A counter of a ledger is the number of measurements that it counts (`Ledger.count_ofList`), and no
two of them are counted under one name, so it says how often one measurement was made
(`Ledger.count_eq_count`). Refusals of sinks are counted under names of their own, so apart from
these counters a ledger is the one of the other measurements (`Ledger.agrees_filter`).
-/

namespace BackupMonitor

/-- Whether this is a refusal of a sink. -/
def Measurement.isSinkFailure : Measurement → Bool
  | sinkFailure _ => true
  | _ => false

/-- Whether this is a sample of a duration. -/
def Measurement.isDuration : Measurement → Bool
  | duration _ => true
  | _ => false

lemma OutcomeLabel.label_inj {outcome outcome' : OutcomeLabel} :
    outcome.label = outcome'.label ↔ outcome = outcome' := by
  cases outcome <;> cases outcome' <;> decide

namespace Ledger

variable {l l' : Ledger} {m m' : Measurement} {counter sink other : String}

/-! ## Counters -/

/-- The counter of the reports that the sinks of a name refused. -/
def sinkFailures (sink : String) : String :=
  labelled "warden_sink_failures_total" "module" sink

/-- The counter of the reports on backups that ended in that way. -/
def reports (outcome : OutcomeLabel) : String :=
  labelled "warden_backup_reports_total" "outcome" outcome.label

/-- The counter of the events that were skipped because their data cannot be read. -/
def malformedEvents : String := "warden_malformed_events_total"

/-- The counter of the watches of a resource that ended. -/
def restarts (resource : String) : String :=
  labelled "warden_stream_restarts_total" "resource" resource

/-- No two measurements are counted under the same name. -/
lemma eq_of_counterOf_eq (h : counterOf m = some counter) (h' : counterOf m' = some counter) :
    m = m' := by
  have hsome : (counterOf m').isSome = true := by rw [h']; rfl
  have hsame : (counterOf m).map String.toList = (counterOf m').map String.toList := by rw [h, h']
  clear h h'
  -- the names of two metrics differ in a letter that comes before the label
  cases m <;> cases m' <;>
    simp [counterOf, labelled, String.toList_inj, OutcomeLabel.label_inj] at hsome hsame ⊢
  all_goals exact hsame

lemma get?_record (l : Ledger) (m : Measurement) (counter : String) :
    (l.record m).counters.get? counter =
      if counterOf m = some counter then some (l.count counter + 1)
      else l.counters.get? counter := by
  simp only [record]
  cases hcounter : counterOf m with
  | none => rw [if_neg (by simp)]
  | some counted =>
    simp only [Table.get?_insert, Option.some.injEq, eq_comm (a := counted)]
    by_cases h : counter = counted
    · rw [if_pos h, if_pos h, h]
    · rw [if_neg h, if_neg h]

lemma count_record (l : Ledger) (m : Measurement) (counter : String) :
    (l.record m).count counter =
      l.count counter + if counterOf m = some counter then 1 else 0 := by
  unfold count
  rw [get?_record]
  split
  · rfl
  · rfl

/-- A counter says how many of the measurements it counts. -/
theorem count_ofList (ms : List Measurement) (counter : String) :
    (ofList ms).count counter = ms.countP fun m => decide (counterOf m = some counter) := by
  -- the ledger may have counted before
  have hfold (l : Ledger) : (ms.foldl record l).count counter =
      l.count counter + ms.countP fun m => decide (counterOf m = some counter) := by
    induction ms generalizing l with
    | nil => rfl
    | cons m ms ih =>
      rw [List.foldl_cons, ih, count_record, List.countP_cons, Nat.add_assoc]
      simp only [decide_eq_true_eq, Nat.add_comm]
  rw [ofList, hfold]
  exact Nat.zero_add _

/-- A counter says how often the measurement that it counts was made. -/
theorem count_eq_count (h : counterOf m = some counter) (ms : List Measurement) :
    (ofList ms).count counter = ms.count m := by
  rw [count_ofList, List.count]
  refine List.countP_congr fun m' _ => ?_
  rw [decide_eq_true_eq, beq_iff_eq]
  constructor
  · intro h'
    exact eq_of_counterOf_eq h' h
  · rintro rfl
    exact h

/-- The counter of refusals says how many there were. -/
theorem count_sinkFailures (ms : List Measurement) (sink : String) :
    (ofList ms).count (sinkFailures sink) = ms.countP (decide <| · = .sinkFailure sink) :=
  count_eq_count rfl ms

/-! ## The gauge and the histogram -/

/-- The number of trackers that run is the number that began less the number that stopped. -/
lemma activeTrackers_ofList (ms : List Measurement) :
    (ofList ms).activeTrackers = ms.count .trackerStarted - ms.count .trackerStopped := by
  -- the ledger may have counted before
  have hfold (l : Ledger) : (ms.foldl record l).activeTrackers =
      l.activeTrackers + ms.count .trackerStarted - ms.count .trackerStopped := by
    induction ms generalizing l with
    | nil => simp
    | cons m ms ih =>
      rw [List.foldl_cons, ih, List.count_cons, List.count_cons]
      cases m <;> simp [record] <;> omega
  have h := hfold {}
  rw [ofList, h]
  show (0 : Int) + _ - _ = _
  omega

/-- The histogram has as many samples as were measured. -/
lemma count_durations_ofList (ms : List Measurement) :
    (ofList ms).durations.count = ms.countP (·.isDuration) := by
  have hfold (l : Ledger) : (ms.foldl record l).durations.count =
      l.durations.count + ms.countP (·.isDuration) := by
    induction ms generalizing l with
    | nil => rfl
    | cons m ms ih =>
      rw [List.foldl_cons, ih, List.countP_cons]
      cases m <;> simp [record, Histogram.record, Measurement.isDuration]
      omega
  have h := hfold {}
  rw [ofList, h]
  exact Nat.zero_add _

/-! ## All but the refusals -/

/-- Two ledgers say the same about everything but the refusals of sinks. -/
structure Agrees (l l' : Ledger) : Prop where
  /-- Every other counter is the same, or is missing in both. -/
  counters : ∀ counter, (∀ sink, counter ≠ sinkFailures sink) →
    l.counters.get? counter = l'.counters.get? counter
  /-- The same number of trackers run. -/
  activeTrackers : l.activeTrackers = l'.activeTrackers
  /-- The durations are the same. -/
  durations : l.durations = l'.durations

namespace Agrees

lemma refl (l : Ledger) : l.Agrees l := ⟨fun _ _ => rfl, rfl, rfl⟩

lemma symm (h : l.Agrees l') : l'.Agrees l :=
  ⟨fun counter hcounter => (h.counters counter hcounter).symm, h.activeTrackers.symm,
    h.durations.symm⟩

lemma trans {l'' : Ledger} (h : l.Agrees l') (h' : l'.Agrees l'') : l.Agrees l'' :=
  ⟨fun counter hcounter => (h.counters counter hcounter).trans (h'.counters counter hcounter),
    h.activeTrackers.trans h'.activeTrackers, h.durations.trans h'.durations⟩

lemma record (h : l.Agrees l') (m : Measurement) : (l.record m).Agrees (l'.record m) := by
  refine ⟨fun counter hcounter => ?_, ?_, ?_⟩
  · rw [get?_record, get?_record]
    unfold count
    rw [h.counters counter hcounter]
  · simp only [Ledger.record, h.activeTrackers]
  · simp only [Ledger.record, h.durations]

/-- A refusal changes nothing else. -/
lemma record_sinkFailure (h : l.Agrees l') (sink : String) :
    (l.record (.sinkFailure sink)).Agrees l' := by
  refine ⟨fun counter hcounter => ?_, h.activeTrackers, h.durations⟩
  have hother : counterOf (.sinkFailure sink) ≠ some counter :=
    fun h => hcounter sink (Option.some.inj h).symm
  rw [get?_record, if_neg hother]
  exact h.counters counter hcounter

end Agrees

/-- Refusals can be left out. -/
theorem agrees_filter (ms : List Measurement) :
    (ofList ms).Agrees (ofList (ms.filter (!·.isSinkFailure))) := by
  have hfold (l l' : Ledger) (h : l.Agrees l') : (ms.foldl Ledger.record l).Agrees
      ((ms.filter (!·.isSinkFailure)).foldl Ledger.record l') := by
    induction ms generalizing l l' with
    | nil => exact h
    | cons m ms ih =>
      rw [List.foldl_cons, List.filter_cons]
      cases hm : m.isSinkFailure with
      | false => exact ih _ _ (h.record m)
      | true =>
        cases m with
        | sinkFailure sink => exact ih _ _ (h.record_sinkFailure sink)
        | _ => cases hm
  exact hfold {} {} (.refl {})

end Ledger

end BackupMonitor
