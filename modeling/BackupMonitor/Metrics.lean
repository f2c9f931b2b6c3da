import BackupMonitor.Resource.Kind
import BackupMonitor.Table
/-!
# Metrics

A `Measurement` is one thing that is counted. A `Ledger` sums measurements up: counters under a
name and a label, the number of trackers that run, and a histogram of durations.
-/

namespace BackupMonitor

/-- The two outcomes that are counted. -/
inductive OutcomeLabel where
  /-- A backup completed. -/
  | success
  /-- A backup failed. -/
  | failure
deriving DecidableEq, Repr

/-- The word for an outcome. -/
def OutcomeLabel.label : OutcomeLabel → String
  | success => "success"
  | failure => "failure"

/-- One thing that is counted. -/
inductive Measurement where
  /-- A backup ended. -/
  | report (outcome : OutcomeLabel)
  /-- A completed backup took that many seconds. -/
  | duration (seconds : Float)
  /-- An event was skipped because its data cannot be read. -/
  | malformed
  /-- A tracker began to run. -/
  | trackerStarted
  /-- A tracker stopped running. -/
  | trackerStopped
  /-- A watch of the resource ended and is taken up again. -/
  | restart (resource : String)
  /-- A sink of that name did not take a report. -/
  | sinkFailure (sink : String)
deriving DecidableEq

/-- How many samples fell into each range between two bounds. -/
structure Histogram where
  /-- The number of samples. -/
  count : Nat := 0
  /-- The sum of the samples, in the order of their arrival. -/
  sum : Float := 0
  /-- The number of samples in each range. -/
  buckets : List Nat := List.replicate 16 0
deriving DecidableEq

namespace Histogram

/-- The bounds between the ranges. -/
def bounds : List Float :=
  [0, 5, 10, 25, 50, 75, 100, 250, 500, 750, 1000, 2500, 5000, 7500, 10000]

/-- The index of the range of a sample; a sample equal to a bound is in the range below it. -/
def bucketOf (sample : Float) : Nat :=
  (bounds.takeWhile (· < sample)).length

/-- Adds a sample. -/
def record (h : Histogram) (sample : Float) : Histogram where
  count := h.count + 1
  sum := h.sum + sample
  buckets := h.buckets.modify (bucketOf sample) (· + 1)

end Histogram

/-- The sum of measurements. -/
structure Ledger where
  /-- How often each outcome, resource or sink was counted, by metric and label. -/
  counters : Table Nat := ∅
  /-- The number of trackers that run. -/
  activeTrackers : Int := 0
  /-- The durations of completed backups. -/
  durations : Histogram := {}
deriving DecidableEq

namespace Ledger

/-- The name of a counter with one label. -/
def labelled (metric label value : String) : String :=
  metric ++ "\x7b" ++ label ++ "=" ++ value ++ "\x7d"

/-- The metric of the number of trackers that run. -/
def activeTrackersMetric : String := "warden_active_trackers"

/-- The metric of the durations of completed backups. -/
def durationsMetric : String := "warden_backup_duration_seconds"

/-- The counter that a measurement adds one to. -/
def counterOf : Measurement → Option String
  | .report outcome => some (labelled "warden_backup_reports_total" "outcome" outcome.label)
  | .malformed => some "warden_malformed_events_total"
  | .restart resource => some (labelled "warden_stream_restarts_total" "resource" resource)
  | .sinkFailure sink => some (labelled "warden_sink_failures_total" "module" sink)
  | _ => none

/-- The value of a counter, zero if nothing was counted. -/
def count (l : Ledger) (counter : String) : Nat :=
  (l.counters.get? counter).getD 0

/-- Takes in a measurement. -/
def record (l : Ledger) (m : Measurement) : Ledger where
  counters :=
    match counterOf m with
    | some counter => l.counters.insert counter (l.count counter + 1)
    | none => l.counters
  activeTrackers :=
    match m with
    | .trackerStarted => l.activeTrackers + 1
    | .trackerStopped => l.activeTrackers - 1
    | _ => l.activeTrackers
  durations :=
    match m with
    | .duration seconds => l.durations.record seconds
    | _ => l.durations

/-- The sum of a list of measurements. -/
def ofList (ms : List Measurement) : Ledger :=
  ms.foldl record {}

end Ledger

end BackupMonitor
